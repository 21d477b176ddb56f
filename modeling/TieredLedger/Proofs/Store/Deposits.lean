import Mathlib.Data.List.Induction
import TieredLedger.Proofs.Store.Opening

/-! What a store in a directory tells of data that it has accepted: what the caller asked for, unless the same bytes were
accepted before with something else. -/
namespace TieredLedger.DirectoryStore

structure Deposit where
  now : Instant
  data : Bytes
  request : StoreRequest

namespace Deposit

def kept (x : Deposit) (s : DirectoryStore) : Bytes := s.keptFor x.data x.request.password

def entry (x : Deposit) (kept : Bytes) : Description := (DirectoryStore.entry x.now x.request x.data kept).settled

def run (x : Deposit) (s : DirectoryStore) : Except StoreError BlobRef × DirectoryStore :=
  (put x.now x.data x.request).run s

/-- A deposit asks for what another one asks for, and perhaps for a signature besides. -/
structure Agrees (y x : Deposit) : Prop where
  contentType : y.request.contentType = x.request.contentType
  size : y.data.length = x.data.length
  password : y.request.password.isSome = x.request.password.isSome
  owner : y.request.owner = x.request.owner
  signingKey : ∀ key, x.request.signingKey = some key → y.request.signingKey = some key

private theorem Agrees.refl (x : Deposit) : x.Agrees x := ⟨rfl, rfl, rfl, rfl, fun _ => id⟩

end Deposit

variable {start s s' : DirectoryStore} {earlier : List Deposit} {x y : Deposit} {g : String} {d : Description}
  {kept : Bytes} {ref : BlobRef}

def deposited (start : DirectoryStore) (earlier : List Deposit) : DirectoryStore :=
  earlier.foldl (fun s y => (y.run s).2) start

private theorem deposited_concat (start : DirectoryStore) (earlier : List Deposit) (y : Deposit) :
    start.deposited (earlier ++ [y]) = (y.run (start.deposited earlier)).2 := by
  rw [deposited, List.foldl_concat]
  rfl

/-- One of the deposits was accepted under a handle with a checksum, and given bytes were kept for it. -/
def Accepted (start : DirectoryStore) (earlier : List Deposit) (handle checksum : String) (y : Deposit) (kept : Bytes) :
    Prop :=
  ∃ before after ref, earlier = before ++ y :: after ∧ kept = y.kept (start.deposited before) ∧
    (y.run (start.deposited before)).1 = .ok ref ∧ ref.handle = handle ∧ ref.checksum = checksum

private theorem Accepted.concat {checksum : String} (h : Accepted start earlier g checksum y kept) (x : Deposit) :
    Accepted start (earlier ++ [x]) g checksum y kept := by
  obtain ⟨before, after, ref, rfl, hrest⟩ := h
  exact ⟨before, after ++ [x], ref, by rw [List.append_assoc, List.cons_append], hrest⟩

private theorem accepted_last (hrun : (x.run (start.deposited earlier)).1 = .ok ref) :
    Accepted start (earlier ++ [x]) ref.handle ref.checksum x (x.kept (start.deposited earlier)) :=
  ⟨earlier, [], ref, rfl, rfl, hrun, rfl, rfl⟩

/-- What stands on record under a handle was written for a deposit that was accepted, and the bytes kept for it are still
there. -/
def Founded (start : DirectoryStore) (earlier : List Deposit) (g : String) (d : Description) : Prop :=
  ∃ y kept, Accepted start earlier g d.checksum y kept ∧ d = y.entry kept ∧
    (start.deposited earlier).keptAt g = .ok kept

/-- A description that can be found can be replaced. -/
theorem not_described_of_unlisted {now : Instant} {data : Bytes} {request : StoreRequest} {cause : FileError}
    (hrun : (put now data request).run s = (.error (.writeDescription cause), s')) (d : Description) :
    s.described (entry now request data (s.keptFor data request.password)).handle ≠ .ok d := by
  intro hd
  obtain ⟨q, bytes, hq, hnode⟩ := exists_place_of_described hd
  rw [run_put] at hrun
  dsimp only at hrun
  generalize entry now request data (s.keptFor data request.password) = new at hrun hq
  split at hrun
  · cases hrun
  split at hrun
  · cases hrun
  next tree hwrite =>
  obtain ⟨p, -, hblob⟩ := FileTree.changes_of_write hwrite
  have hfile : tree.node? q ≠ some .directory := fun h => by
    rw [hblob.directories, hnode] at h
    cases h
  obtain ⟨after, henter, -⟩ := FileTree.exists_write (hblob.locate_eq_ok.2 hq) hfile (Bytes.ofText new.write)
  rw [henter] at hrun
  cases hrun

/-- After data are stored a description is one from before, whose bytes are as they were, or the one that was written. -/
theorem described_of_put {now : Instant} {data : Bytes} {request : StoreRequest} {answer : Except StoreError BlobRef}
    (hrun : (put now data request).run s = (answer, s')) (hname : Handle.IsName g) (hd : s'.described g = .ok d) :
    (s.described g = .ok d ∧ ∀ kept, s.keptAt g = .ok kept → s'.keptAt g = .ok kept) ∨
      answer = .ok (refOf g d.checksum (entry now request data (s.keptFor data request.password))) ∧
        d = (entry now request data (s.keptFor data request.password)).settled ∧ d.handle = g ∧
        s'.keptAt g = .ok (s.keptFor data request.password) := by
  have hmade := Handle.isName_make request.hint (s.keptFor data request.password)
  cases put_cases hrun with
  | onRecord | refused =>
    rw [described_afterDraw] at hd
    exact Or.inl ⟨hd, fun kept hkept => by rwa [keptAt_afterDraw]⟩
  | unlisted _ hp hkept =>
    have hbefore := (hkept.described_elsewhere fun q hq => (blob_ne_description hp hq).symm).1 hd
    refine Or.inl ⟨hbefore, fun kept => (hkept.keptAt_elsewhere fun q hq => ?_).2⟩
    refine blob_ne_blob hname hmade ?_ hq hp
    rintro rfl
    exact not_described_of_unlisted hrun d hbefore
  | stored _ hp hkept hq hentered =>
    by_cases hself : g = (entry now request data (s.keptFor data request.password)).handle
    · subst hself
      obtain ⟨hbytes, hnew⟩ := files_of_entered hp hkept hq hentered
      rw [hd] at hnew
      obtain rfl := Except.ok.inj hnew
      exact Or.inr ⟨rfl, rfl, rfl, hbytes⟩
    · have hmid := (hentered.described_elsewhere fun r hr => description_ne_description hname hmade hself hr hq).1 hd
      refine Or.inl ⟨(hkept.described_elsewhere fun r hr => (blob_ne_description hp hr).symm).1 hmid, fun kept hbytes => ?_⟩
      refine (hentered.keptAt_elsewhere fun r hr => blob_ne_description hr hq).2 ?_
      exact (hkept.keptAt_elsewhere fun r hr => blob_ne_blob hname hmade hself hr hp).2 hbytes

/-- Whatever is on record in a store that was empty is founded on a deposit. -/
theorem founded_of_deposited (hempty : start.IsEmpty) (hname : Handle.IsName g)
    (hd : (start.deposited earlier).described g = .ok d) : Founded start earlier g d := by
  induction earlier using List.reverseRecOn generalizing d with
  | nil => exact absurd hd (hempty.described_ne_ok hname d)
  | append_singleton earlier x ih =>
    rw [deposited_concat] at hd
    rcases described_of_put rfl hname hd with ⟨hbefore, hbytes⟩ | ⟨hanswer, hentry, hhandle, hbytes⟩
    · obtain ⟨y, kept, haccepted, hentry, hkept⟩ := ih hbefore
      refine ⟨y, kept, haccepted.concat x, hentry, ?_⟩
      rw [deposited_concat]
      exact hbytes kept hkept
    · refine ⟨x, _, accepted_last hanswer, hentry, ?_⟩
      rw [deposited_concat]
      exact hbytes

/-- A reference and the files that it leads to describe a deposit: they tell what was asked for, and the checksum and the
signature are those of the bytes on disk. -/
structure Describes (s : DirectoryStore) (ref : BlobRef) (x : Deposit) : Prop where
  contentType : ref.contentType = x.request.contentType
  size : ref.size = .ofNat x.data.length
  files : ∃ kept d, (readBlob ref.handle).run s = (.ok kept, s) ∧ ref.checksum = checksum kept ∧
    (describe ref.handle).run s = (.ok d, s) ∧ d.contentType = x.request.contentType ∧
    d.sealed = x.request.password.isSome ∧ d.owner = x.request.owner ∧
    ∀ key, x.request.signingKey = some key → d.signature = some (Bytes.hex (Hmac.code key kept))

private theorem Describes.of_agrees (h : s.Describes ref y) (hagrees : y.Agrees x) : s.Describes ref x where
  contentType := h.contentType.trans hagrees.contentType
  size := h.size.trans (congrArg UInt64.ofNat hagrees.size)
  files := by
    obtain ⟨kept, d, hkept, hsum, hd, htype, hsealed, howner, hsigned⟩ := h.files
    exact ⟨kept, d, hkept, hsum, hd, htype.trans hagrees.contentType, hsealed.trans hagrees.password,
      howner.trans hagrees.owner, fun key hkey => hsigned key (hagrees.signingKey key hkey)⟩

private theorem describes_of_entry (hd : s.described g = .ok (y.entry kept)) (hkept : s.keptAt g = .ok kept)
    (createdAt : Instant) : s.Describes { refOf g (checksum kept) (y.entry kept) with createdAt } y where
  contentType := rfl
  size := rfl
  files := by
    refine ⟨kept, y.entry kept, ?_, rfl, ?_, rfl, rfl, rfl, fun key hkey => ?_⟩
    · rw [run_readBlob, refOf, hkept]
    · rw [run_describe, refOf, hd]
    · rw [Deposit.entry, entry, hkey]
      rfl

/-- What is accepted is described as it was asked for, now or by an earlier deposit that was accepted under the same
handle with the same checksum. -/
theorem describes_one_of (hempty : start.IsEmpty) (hrun : x.run (start.deposited earlier) = (.ok ref, s')) :
    ∃ y, (y = x ∨ ∃ kept, Accepted start earlier ref.handle ref.checksum y kept) ∧ s'.Describes ref y := by
  have hput : (put x.now x.data x.request).run (start.deposited earlier) = (.ok ref, s') := hrun
  cases put_cases hput with
  | @onRecord d hd hsum =>
    obtain ⟨y, kept, haccepted, rfl, hkept⟩ := founded_of_deposited hempty (Handle.isName_make _ _) hd
    rw [← hsum]
    refine ⟨y, Or.inr ⟨kept, haccepted⟩, describes_of_entry ?_ ?_ _⟩
    · rw [described_afterDraw]
      exact hd
    · rw [keptAt_afterDraw]
      exact hkept
  | stored _ hp hkept hq hentered =>
    obtain ⟨hbytes, hnew⟩ := files_of_entered hp hkept hq hentered
    exact ⟨x, Or.inl rfl, describes_of_entry hnew hbytes x.now⟩

/-- After any deposits in a store that was empty, what is accepted is described as the caller asked, unless one of them
was accepted under the same handle with the same checksum and asked for something else. In any case the checksum is that
of the bytes on disk, and what is told is what one of these callers asked for. -/
theorem accepted_is_described (hempty : start.IsEmpty) (earlier : List Deposit) (x : Deposit)
    (hrun : x.run (start.deposited earlier) = (.ok ref, s')) :
    (∃ y, (y = x ∨ ∃ kept, Accepted start earlier ref.handle ref.checksum y kept) ∧ s'.Describes ref y) ∧
      ((∀ y kept, Accepted start earlier ref.handle ref.checksum y kept → y.Agrees x) → s'.Describes ref x) := by
  refine ⟨describes_one_of hempty hrun, fun hagree => ?_⟩
  obtain ⟨y, rfl | ⟨kept, haccepted⟩, hdescribes⟩ := describes_one_of hempty hrun
  · exact hdescribes
  · exact hdescribes.of_agrees (hagree y kept haccepted)

private theorem run_again (hrun : x.run s = (.ok ref, s')) (hfresh : ∀ d, s.described ref.handle ≠ .ok d)
    (hplain : x.request.password = none ∧ y.request.password = none) (hdata : y.data = x.data)
    (hhint : y.request.hint = x.request.hint) (hnow : x.now.LeapEndsMinute) :
    y.run s' = (.ok ref, s') ∧ ref.contentType = x.request.contentType ∧
      s'.described ref.handle = .ok (x.entry x.data) := by
  have hput := put_cases hrun
  have hkept : ∀ t : DirectoryStore, t.keptFor x.data none = x.data := fun _ => rfl
  rw [hplain.1, hkept] at hput
  cases hput with
  | onRecord hd => exact absurd hd (hfresh _)
  | stored _ hp hbytes hq hentered =>
    have hd : s'.described (entry x.now x.request x.data x.data).handle = .ok (x.entry x.data) :=
      (files_of_entered hp hbytes hq hentered).2
    have hrecorded : s'.recorded (entry y.now y.request x.data x.data).handle (checksum x.data) =
        some (x.entry x.data) := by
      rw [entry, hhint]
      exact recorded_eq_some.2 ⟨hd, rfl⟩
    refine ⟨?_, rfl, hd⟩
    rw [Deposit.run, run_put, hplain.2, hdata, hkept]
    dsimp only
    rw [show (entry y.now y.request x.data x.data).checksum = checksum x.data from rfl, hrecorded]
    have hcreated : (x.entry x.data).createdAt = x.now := Instant.settled_eq_self_iff.2 hnow
    simp only [entry, hhint, refOf, hcreated]
    rfl

def Deposit.byte (request : StoreRequest) : Deposit := ⟨default, [1], request⟩

def signedRequest : StoreRequest :=
  { StoreRequest.ofType "image/png" with signingKey := some [2], owner := some "alice" }

private theorem exists_run_twice (first second : StoreRequest) (hfirst : first.password = none ∧ first.hint = none)
    (hsecond : second.password = none ∧ second.hint = none) : ∃ ref s',
    (Deposit.byte second).run ((opened fun _ => default).deposited [.byte first]) = (.ok ref, s') ∧
      ref.contentType = first.contentType ∧ (describe ref.handle).run s' = (.ok ((Deposit.byte first).entry [1]), s') := by
  obtain ⟨ref, s', hput⟩ := exists_run_put_opened (fun _ => default) default [1] hfirst.2
  have hfresh := (isEmpty_opened fun _ => default).described_ne_ok (isName_of_put hput)
  obtain ⟨hagain, htype, hd⟩ := run_again (x := .byte first) (y := .byte second) hput hfresh ⟨hfirst.1, hsecond.1⟩ rfl
    (hsecond.2.trans hfirst.2.symm) (show (default : Instant).LeapEndsMinute by decide)
  have hafter : (opened fun _ => default).deposited [.byte first] = s' := congrArg Prod.snd hput
  refine ⟨ref, s', by rw [hafter, hagain], htype, ?_⟩
  rw [run_describe, hd]
  rfl

/-- A signed image that is stored twice is described as such. -/
theorem signed_twice_is_described : ∃ ref s',
    (Deposit.byte signedRequest).run ((opened fun _ => default).deposited [.byte signedRequest]) = (.ok ref, s') ∧
      s'.Describes ref (.byte signedRequest) := by
  obtain ⟨ref, s', hrun, -⟩ := exists_run_twice signedRequest signedRequest ⟨rfl, rfl⟩ ⟨rfl, rfl⟩
  refine ⟨ref, s', hrun, (accepted_is_described (isEmpty_opened _) _ _ hrun).2 ?_⟩
  rintro y kept ⟨before, after, ref', hearlier, -⟩
  have hy : y ∈ [Deposit.byte signedRequest] := by
    rw [hearlier]
    exact List.mem_append_right _ List.mem_cons_self
  rw [List.mem_singleton.1 hy]
  exact .refl _

/-- A byte that is stored as text and then as a signed image with an owner remains a text without either. -/
theorem second_request_is_lost : ∃ ref s' d, (opened fun _ => default).IsEmpty ∧
    (Deposit.byte signedRequest).run ((opened fun _ => default).deposited [.byte (.ofType "text/plain")]) =
      (.ok ref, s') ∧
    ¬ s'.Describes ref (.byte signedRequest) ∧ ref.contentType = "text/plain" ∧
      (describe ref.handle).run s' = (.ok d, s') ∧ d.contentType = "text/plain" ∧ d.owner = none ∧ d.signature = none := by
  obtain ⟨ref, s', hrun, htype, hd⟩ :=
    exists_run_twice (.ofType "text/plain") signedRequest ⟨rfl, rfl⟩ ⟨rfl, rfl⟩
  refine ⟨ref, s', _, isEmpty_opened _, hrun, fun h => ?_, htype, hd, rfl, rfl, rfl⟩
  exact absurd (htype.symm.trans h.contentType) (by decide)

end TieredLedger.DirectoryStore
