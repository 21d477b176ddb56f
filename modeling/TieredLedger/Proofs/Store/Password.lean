import TieredLedger.Proofs.Store.Calls

/-! Passwords in memory: what was stored last under a handle decides which password gets it. -/
namespace TieredLedger.OffChainStore

variable {m m' : MemoryStore} {handle : String} {call : Call} {calls : List Call}

def Call.landing? (handle : String) : Call → Option (Bytes × StoreRequest)
  | .put _ data request => if Handle.make request.hint (checksum data) = handle then some (data, request) else none
  | _ => none

/-- What calls store under a handle, in their order. -/
def landings (handle : String) (calls : List Call) : List (Bytes × StoreRequest) :=
  calls.filterMap (Call.landing? handle)

private theorem landings_cons (handle : String) (call : Call) (calls : List Call) :
    landings handle (call :: calls) = (call.landing? handle).toList ++ landings handle calls := by
  rw [landings, List.filterMap_cons, landings]
  cases call.landing? handle <;> rfl

private def landed (landing : Bytes × StoreRequest) : MemoryBlob :=
  MemoryStore.blobFor landing.1 landing.2.password

private theorem blob_run (hworks : m.failWrites = false) (hkept : call ≠ .delete handle) :
    ((memory.run call).run m).2.blobs[handle]? = ((call.landing? handle).map landed).or m.blobs[handle]? := by
  cases call with
  | put now data request =>
    have hrun : (memory.put now data request).run m = _ := MemoryStore.run_put hworks
    rw [run_put, hrun, Call.landing?]
    by_cases hlands : Handle.make request.hint (checksum data) = handle
    · rw [if_pos hlands, hlands]
      exact Std.TreeMap.getElem?_insert_self
    · rw [if_neg hlands]
      refine Std.TreeMap.getElem?_insert.trans ?_
      rw [if_neg (by simpa using hlands)]
      rfl
  | delete g =>
    have hne : g ≠ handle := by
      rintro rfl
      exact hkept rfl
    have hrun : (memory.delete g).run m = _ := MemoryStore.run_delete
    rw [run_delete, hrun]
    cases m.found g with
    | error e => rfl
    | ok b =>
      refine Std.TreeMap.getElem?_erase.trans ?_
      rw [if_neg (by simpa using hne)]
      rfl
  | fetch now g password =>
    have hsame : ((memory.fetch now g password).run m).2 = m := MemoryStore.run_fetch_snd
    rw [run_fetch, hsame]
    rfl
  | contains g => rfl
  | size g =>
    rw [run_size, run_memory_size]
    rfl
  | verify g =>
    have hrun : (memory.verify g).run m = _ := MemoryStore.run_verify
    rw [run_verify, hrun]
    rfl
  | health => rfl

private theorem faults_run (hworks : m.failWrites = false) (call : Call) :
    ((memory.run call).run m).2.failWrites = false ∧ ((memory.run call).run m).2.failReads = m.failReads := by
  cases call with
  | put now data request =>
    have hrun : (memory.put now data request).run m = _ := MemoryStore.run_put hworks
    rw [run_put, hrun]
    exact ⟨hworks, rfl⟩
  | delete g =>
    have hrun : (memory.delete g).run m = _ := MemoryStore.run_delete
    rw [run_delete, hrun]
    cases m.found g <;> exact ⟨hworks, rfl⟩
  | fetch now g password =>
    have hsame : ((memory.fetch now g password).run m).2 = m := MemoryStore.run_fetch_snd
    rw [run_fetch, hsame]
    exact ⟨hworks, rfl⟩
  | size g =>
    rw [run_size, run_memory_size]
    exact ⟨hworks, rfl⟩
  | verify g =>
    have hrun : (memory.verify g).run m = _ := MemoryStore.run_verify
    rw [run_verify, hrun]
    exact ⟨hworks, rfl⟩
  | contains | health => exact ⟨hworks, rfl⟩

/-- What was stored last under a handle is there until the handle is removed. -/
theorem blob_runAll (hworks : m.failWrites = false) (hkept : Call.delete handle ∉ calls) :
    (memory.runAll calls m).2.failReads = m.failReads ∧
      (memory.runAll calls m).2.blobs[handle]? = ((landings handle calls).getLast?.map landed).or m.blobs[handle]? := by
  induction calls generalizing m with
  | nil => exact ⟨rfl, rfl⟩
  | cons call calls ih =>
    have hcall : call ≠ .delete handle := fun h => hkept (h ▸ List.mem_cons_self)
    obtain ⟨hwrites, hreads⟩ := faults_run hworks call
    obtain ⟨hlaterReads, hlater⟩ := ih hwrites fun h => hkept (List.mem_cons_of_mem call h)
    rw [runAll_cons]
    refine ⟨hlaterReads.trans hreads, hlater.trans ?_⟩
    rw [blob_run hworks hcall, landings_cons, List.getLast?_append, Option.map_or, Option.or_assoc]
    cases call.landing? handle <;> rfl

private theorem blob_of_put {now : Instant} {data : Bytes} {request : StoreRequest} {ref : BlobRef}
    (hworks : m.failWrites = false) (hput : (MemoryStore.put now data request).run m = (.ok ref, m')) :
    m'.failWrites = false ∧ m'.failReads = m.failReads ∧
      m'.blobs[ref.handle]? = some (MemoryStore.blobFor data request.password) := by
  rw [MemoryStore.run_put hworks] at hput
  cases hput
  exact ⟨hworks, rfl, Std.TreeMap.getElem?_insert_self⟩

/-- Bytes that were stored with a password can be got with this password and with no other, until the handle is removed,
as long as whatever else is stored there is the same bytes and the last to store them gave this password too. -/
theorem password_is_kept {now : Instant} {data : Bytes} {request : StoreRequest} {password : String} {ref : BlobRef}
    (hworks : m.failWrites = false ∧ m.failReads = false) (hpassword : request.password = some password)
    (hput : (MemoryStore.put now data request).run m = (.ok ref, m')) (hkept : Call.delete ref.handle ∉ calls)
    (hdata : ∀ landing ∈ landings ref.handle calls, landing.1 = data)
    (hlast : ∀ landing ∈ (landings ref.handle calls).getLast?, landing.2.password = some password) :
    ((MemoryStore.fetch ref.handle (some password)).run (memory.runAll calls m').2).1 = .ok data ∧
      (∀ other, MemoryStore.digestOf other ≠ MemoryStore.digestOf password →
        ((MemoryStore.fetch ref.handle (some other)).run (memory.runAll calls m').2).1 =
          .error (.wrongPassword ref.handle)) ∧
      ((MemoryStore.fetch ref.handle none).run (memory.runAll calls m').2).1 = .error (.wrongPassword ref.handle) := by
  obtain ⟨hwrites, hreads, hstored⟩ := blob_of_put hworks.1 hput
  obtain ⟨hlater, hblob⟩ := blob_runAll hwrites hkept
  have hfound : (memory.runAll calls m').2.found ref.handle = .ok (MemoryStore.blobFor data (some password)) := by
    refine MemoryStore.found_of_some (hblob.trans ?_)
    cases hlatest : (landings ref.handle calls).getLast? with
    | none => rw [hstored, hpassword, Option.map_none, Option.none_or]
    | some landing =>
      rw [Option.map_some, landed, hdata landing (List.mem_of_getLast? hlatest), hlast landing hlatest, Option.some_or]
  have hfetch : ∀ given, ((MemoryStore.fetch ref.handle given).run (memory.runAll calls m').2).1 =
      MemoryStore.opened (MemoryStore.blobFor data (some password)) ref.handle given := by
    intro given
    rw [MemoryStore.run_fetch_eq (hlater.trans (hreads.trans hworks.2)), hfound]
    rfl
  refine ⟨?_, fun other hother => ?_, ?_⟩
  · rw [hfetch]
    exact if_pos rfl
  · rw [hfetch]
    exact if_neg fun hsame => hother (Option.some.inj hsame)
  · rw [hfetch]
    rfl

def protectedBy (password : String) : StoreRequest :=
  { StoreRequest.ofType "text/plain" with password := some password }

private theorem exists_put (now : Instant) (data : Bytes) (request : StoreRequest) (hworks : m.failWrites = false) :
    ∃ ref m', (MemoryStore.put now data request).run m = (.ok ref, m') ∧
      ref.handle = Handle.make request.hint (checksum data) :=
  ⟨_, _, MemoryStore.run_put hworks, rfl⟩

/-- The password is kept over storing the same bytes with it again and over storing others. -/
theorem password_is_kept_over_stores : ∃ ref m',
    (MemoryStore.put default [1] (protectedBy "first")).run .empty = (.ok ref, m') ∧
      ((MemoryStore.fetch ref.handle none).run (memory.runAll [.put default [1] (protectedBy "first"),
        .put default [2] (protectedBy "second"), .health] m').2).1 = .error (.wrongPassword ref.handle) := by
  obtain ⟨ref, m', hput, hhandle⟩ :=
    exists_put default [1] (protectedBy "first") (rfl : MemoryStore.empty.failWrites = false)
  refine ⟨ref, m', hput, (password_is_kept ⟨rfl, rfl⟩ rfl hput ?_ ?_ ?_).2.2⟩
  · simp
  · rw [hhandle]
    decide +kernel
  · rw [hhandle]
    decide +kernel

private theorem shut_out {first second : StoreRequest} {ref again : BlobRef} {now : Instant} {data : Bytes}
    {m₁ m₂ : MemoryStore} {p q : String} (hworks : m.failWrites = false ∧ m.failReads = false)
    (hsame : again.handle = ref.handle) (hq : second.password = some q)
    (hdigests : MemoryStore.digestOf p ≠ MemoryStore.digestOf q)
    (hfirst : (MemoryStore.put now data first).run m = (.ok ref, m₁))
    (hsecond : (MemoryStore.put now data second).run m₁ = (.ok again, m₂)) :
    ((MemoryStore.fetch ref.handle (some p)).run m₂).1 = .error (.wrongPassword ref.handle) ∧
      ((MemoryStore.fetch ref.handle (some q)).run m₂).1 = .ok data := by
  obtain ⟨hwrites, hreads, -⟩ := blob_of_put hworks.1 hfirst
  obtain ⟨-, hlater, hblob⟩ := blob_of_put hwrites hsecond
  rw [hsame, hq] at hblob
  have hfetch : ∀ given, ((MemoryStore.fetch ref.handle given).run m₂).1 =
      MemoryStore.opened (MemoryStore.blobFor data (some q)) ref.handle given := by
    intro given
    rw [MemoryStore.run_fetch_eq (hlater.trans (hreads.trans hworks.2)), MemoryStore.found_of_some hblob]
    rfl
  refine ⟨?_, ?_⟩
  · rw [hfetch]
    exact if_neg fun h => hdigests (Option.some.inj h)
  · rw [hfetch]
    exact if_pos rfl

/-- Storing the same bytes with another password shuts the first one out. -/
theorem later_password_shuts_out : ∃ ref again m₁ m₂,
    (MemoryStore.put default [1] (protectedBy "first")).run .empty = (.ok ref, m₁) ∧
      (MemoryStore.put default [1] (protectedBy "second")).run m₁ = (.ok again, m₂) ∧
      ((MemoryStore.fetch ref.handle (some "first")).run m₂).1 = .error (.wrongPassword ref.handle) ∧
      ((MemoryStore.fetch ref.handle (some "second")).run m₂).1 = .ok [1] := by
  have hdigests : MemoryStore.digestOf "first" ≠ MemoryStore.digestOf "second" := by decide +kernel
  have hworks : MemoryStore.empty.failWrites = false ∧ MemoryStore.empty.failReads = false := ⟨rfl, rfl⟩
  have hhint : (protectedBy "second").hint = (protectedBy "first").hint := rfl
  have hpassword : (protectedBy "second").password = some "second" := rfl
  generalize protectedBy "first" = first, protectedBy "second" = second, MemoryStore.empty = m at *
  obtain ⟨ref, m₁, hfirst, hhandle⟩ := exists_put default [1] first hworks.1
  obtain ⟨again, m₂, hsecond, hagain⟩ := exists_put default [1] second (blob_of_put hworks.1 hfirst).1
  have hsame : again.handle = ref.handle := by rw [hagain, hhandle, hhint]
  exact ⟨ref, again, m₁, m₂, hfirst, hsecond, shut_out hworks hsame hpassword hdigests hfirst hsecond⟩

end TieredLedger.OffChainStore
