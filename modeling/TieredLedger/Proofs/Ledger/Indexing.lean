import TieredLedger.Ledger
import TieredLedger.Proofs.Search.Reference
import TieredLedger.Proofs.Visibility

/-! What an encrypted block tells a search: its shown terms to everyone, its hidden terms to whoever has the password. -/
namespace TieredLedger

private theorem bind_eq_ok {ε α β : Type} {x : Except ε α} {f : α → Except ε β} {r : β} :
    x >>= f = .ok r ↔ ∃ a, x = .ok a ∧ f a = .ok r := by
  cases x <;> simp [bind, Except.bind]

/-- What a search relies on in a codec for hidden terms: a token looks encrypted, holds no white space, and opens to the
text that was sealed, under the password it was sealed with and no other. -/
structure Codec.Faithful (c : Codec) : Prop where
  looks : ∀ {draw text password token}, c.encrypt draw text password = .ok token → c.looksEncrypted token = true
  spaceless : ∀ {draw text password token}, c.encrypt draw text password = .ok token → Text.hasBlank token = false
  opens : ∀ {draw text password token}, c.encrypt draw text password = .ok token →
    ∀ q, c.decrypt token q = if q = password then some text else none

/-- No token is the empty text, in which a search finds no word to open. -/
def Codec.NoEmptyToken (c : Codec) : Prop :=
  ∀ {draw text password token}, c.encrypt draw text password = .ok token → token ≠ ""

namespace Ledger

private theorem addTerm_ok {start set : TermSet} {term : String} (h : addTerm start term = .ok set) :
    (Term.normal term ≠ "" → Text.IsWord (Term.normal term)) ∧
      ∀ n, n ∈ set ↔ n ∈ start ∨ (n ≠ "" ∧ Term.normal term = n) := by
  rw [addTerm] at h
  by_cases hempty : Term.normal term = ""
  · rw [if_pos (String.isEmpty_iff.2 hempty), Except.ok.injEq] at h
    subst h
    refine ⟨fun hne => absurd hempty hne, fun n => ⟨Or.inl, ?_⟩⟩
    rintro (hn | ⟨hne, rfl⟩)
    · exact hn
    · exact absurd hempty hne
  rw [if_neg (by rwa [String.isEmpty_iff])] at h
  by_cases hblank : Text.hasBlank (Term.normal term) = true
  · rw [if_pos hblank] at h
    cases h
  rw [if_neg hblank, Except.ok.injEq] at h
  subst h
  refine ⟨fun _ => ⟨hempty, by simpa using hblank⟩, fun n => ?_⟩
  rw [Std.TreeSet.mem_insert, Std.LawfulEqCmp.compare_eq_iff_eq, or_comm]
  constructor
  · rintro (hn | rfl)
    · exact Or.inl hn
    · exact Or.inr ⟨hempty, rfl⟩
  · rintro (hn | ⟨_, he⟩)
    · exact Or.inl hn
    · exact Or.inr he

private theorem foldlM_addTerm_ok {terms : List String} {start set : TermSet}
    (h : terms.foldlM addTerm start = .ok set) :
    (∀ term ∈ terms, Term.normal term ≠ "" → Text.IsWord (Term.normal term)) ∧
      ∀ n, n ∈ set ↔ n ∈ start ∨ (n ≠ "" ∧ ∃ term ∈ terms, Term.normal term = n) := by
  induction terms generalizing start with
  | nil =>
    simp only [List.foldlM_nil, pure, Except.pure, Except.ok.injEq] at h
    subst h
    simp
  | cons term terms ih =>
    rw [List.foldlM_cons, bind_eq_ok] at h
    obtain ⟨mid, hmid, hrest⟩ := h
    obtain ⟨hword, hmem⟩ := addTerm_ok hmid
    obtain ⟨hwords, hmems⟩ := ih hrest
    refine ⟨?_, fun n => ?_⟩
    · rintro t ht
      rcases List.mem_cons.1 ht with rfl | ht
      · exact hword
      · exact hwords t ht
    · rw [hmems, hmem, or_assoc, ← and_or_left]
      simp only [List.mem_cons, exists_eq_or_imp]

private theorem addTerm_error {set : TermSet} {term : String} {fault : LedgerError}
    (h : addTerm set term = .error fault) :
    Text.hasBlank (Term.normal term) = true ∧ fault = .spacedTerm (Term.normal term) := by
  rw [addTerm] at h
  split at h
  · cases h
  split at h
  · next hblank =>
    cases h
    exact ⟨hblank, rfl⟩
  · cases h

private theorem foldlM_addTerm_error {terms : List String} {start : TermSet} {fault : LedgerError}
    (h : terms.foldlM addTerm start = .error fault) :
    ∃ term ∈ terms, Text.hasBlank (Term.normal term) = true ∧ fault = .spacedTerm (Term.normal term) := by
  induction terms generalizing start with
  | nil => cases h
  | cons term terms ih =>
    rw [List.foldlM_cons] at h
    cases hadd : addTerm start term with
    | error first =>
      rw [hadd] at h
      cases h
      exact ⟨term, List.mem_cons_self, addTerm_error hadd⟩
    | ok mid =>
      rw [hadd] at h
      obtain ⟨other, hother, hfault⟩ := ih h
      exact ⟨other, List.mem_cons_of_mem term hother, hfault⟩

/-- The normal forms of terms that are accepted are words or blank. -/
theorem isWord_of_normalTerms {terms : List String} {set : TermSet} (h : normalTerms terms = .ok set) :
    ∀ term ∈ terms, Term.normal term ≠ "" → Text.IsWord (Term.normal term) :=
  (foldlM_addTerm_ok h).1

/-- Terms are refused for one of them with white space inside, and the failure names it. -/
theorem spaced_of_normalTerms {terms : List String} {fault : LedgerError} (h : normalTerms terms = .error fault) :
    ∃ term ∈ terms, Text.hasBlank (Term.normal term) = true ∧ fault = .spacedTerm (Term.normal term) :=
  foldlM_addTerm_error h

/-- The set holds the normal forms of the terms, the empty one excepted. -/
theorem mem_normalTerms {terms : List String} {set : TermSet} (h : normalTerms terms = .ok set) (n : String) :
    n ∈ set ↔ n ≠ "" ∧ ∃ term ∈ terms, Term.normal term = n := by
  rw [(foldlM_addTerm_ok h).2]
  simp

structure Entry where
  data : String
  password : String
  terms : List String
  visibility : VisibilityMap
  keywordDraw : Draw
  payloadDraw : Draw
  now : Instant

namespace Entry

def append (e : Entry) (l : Ledger) : Except LedgerError Block × Ledger :=
  (appendEncrypted e.data e.password e.terms e.visibility e.keywordDraw e.payloadDraw e.now).run l

/-- An entry has a term of this normal form, and gives it this visibility. -/
def Lists (e : Entry) (n : String) (v : Visibility) : Prop :=
  (∃ term ∈ e.terms, Term.normal term = n) ∧ e.visibility.visibilityOf n = v

/-- Whoever searches for a normal form with a password, or with none, shall find the block of the entry. -/
def FoundBy (e : Entry) (n : String) (password : Option String) : Prop :=
  e.Lists n .shown ∨ e.Lists n .hidden ∧ password = some e.password

end Entry

/-- The block of an entry: its sealed payload, its shown terms, and the token of its hidden ones. -/
def Entry.block (e : Entry) (l : Ledger) (set : TermSet) (auto : List Keyword) (ciphertext : String) : Block :=
  { (nextBlock l.blocks ciphertext e.now).markEncrypted with
    manualKeywords := (e.visibility.select .shown set).map Keyword.ofTerm, autoKeywords := auto }

variable {l l' : Ledger} {e : Entry} {b : Block}

@[simp] theorem Entry.manualKeywords_block (set : TermSet) (auto : List Keyword) (ciphertext : String) :
    (e.block l set auto ciphertext).manualKeywords = (e.visibility.select .shown set).map Keyword.ofTerm := rfl

@[simp] theorem Entry.autoKeywords_block (set : TermSet) (auto : List Keyword) (ciphertext : String) :
    (e.block l set auto ciphertext).autoKeywords = auto := rfl

private theorem LedgerM.run_bind {α β : Type} (x : LedgerM α) (f : α → LedgerM β) (l : Ledger) : (x >>= f).run l =
    match x.run l with
    | (.ok a, l') => (f a).run l'
    | (.error fault, l') => (.error fault, l') := by
  change (match x.run l with | (answer, l') => (ExceptT.bindCont f answer : StateM Ledger _) l') = _
  cases x.run l with
  | mk answer l' => cases answer <;> rfl

private theorem LedgerM.run_lift {α : Type} (r : Except LedgerError α) (l : Ledger) :
    (liftM r : LedgerM α).run l = (r, l) := rfl

private theorem LedgerM.run_get (l : Ledger) : (get : LedgerM Ledger).run l = (.ok l, l) := rfl

def Entry.sealed (e : Entry) (l : Ledger) : Except LedgerError Block := do
  if e.password.isEmpty then throw .emptyPassword
  let set ← normalTerms e.terms
  let auto ← tokenKeywords l.codec e.keywordDraw e.password (e.visibility.partition set).hidden
  let ciphertext ← payloadCipher.encrypt e.payloadDraw (Bytes.ofText e.data) e.password
  return e.block l set auto ciphertext

/-- Adding an entry comes to sealing its block and, if that succeeds, putting it at the end. -/
theorem append_apply (e : Entry) (l : Ledger) : e.append l =
    match e.sealed l with
    | .ok b => (.ok b, l.push b)
    | .error fault => (.error fault, l) := by
  rw [Entry.append, appendEncrypted, Entry.sealed]
  by_cases hp : e.password.isEmpty = true
  · rw [if_pos hp, if_pos hp]
    rfl
  rw [if_neg hp, if_neg hp]
  simp only [LedgerM.run_bind, LedgerM.run_lift, LedgerM.run_get]
  cases normalTerms e.terms with
  | error fault => rfl
  | ok set =>
    dsimp only [bind, Except.bind]
    cases tokenKeywords l.codec e.keywordDraw e.password (e.visibility.partition set).hidden with
    | error fault => rfl
    | ok auto =>
      cases payloadCipher.encrypt e.payloadDraw (Bytes.ofText e.data) e.password with
      | error fault => rfl
      | ok ciphertext => rfl

/-- Everything that sealing the block of an entry comes to. -/
theorem sealed_eq_ok : e.sealed l = .ok b ↔
    e.password ≠ "" ∧ ∃ set auto ciphertext, normalTerms e.terms = .ok set ∧
      tokenKeywords l.codec e.keywordDraw e.password (e.visibility.select .hidden set) = .ok auto ∧
      payloadCipher.encrypt e.payloadDraw (Bytes.ofText e.data) e.password = .ok ciphertext ∧
      b = e.block l set auto ciphertext := by
  rw [Entry.sealed]
  by_cases hp : e.password = ""
  · simp [hp, throw, throwThe, MonadExceptOf.throw, bind, Except.bind]
  rw [if_neg (by rwa [String.isEmpty_iff])]
  simp only [bind_eq_ok, pure, Except.pure, Except.ok.injEq]
  constructor
  · rintro ⟨set, hset, auto, hauto, ciphertext, hciphertext, rfl⟩
    exact ⟨hp, set, auto, ciphertext, hset, hauto, hciphertext, rfl⟩
  · rintro ⟨-, set, auto, ciphertext, hset, hauto, hciphertext, rfl⟩
    exact ⟨set, hset, auto, hauto, ciphertext, hciphertext, rfl⟩

/-- An entry that is added puts its sealed block at the end, and nothing else. -/
theorem append_eq_ok : e.append l = (.ok b, l') ↔ e.sealed l = .ok b ∧ l' = l.push b := by
  rw [append_apply]
  cases e.sealed l with
  | ok c =>
    simp only [Prod.mk.injEq, Except.ok.injEq]
    exact and_congr_right fun hb => by rw [hb, eq_comm]
  | error fault => simp

/-- An entry that is refused changes nothing. -/
theorem append_eq_error {fault : LedgerError} :
    e.append l = (.error fault, l') ↔ e.sealed l = .error fault ∧ l' = l := by
  rw [append_apply]
  cases e.sealed l with
  | ok c => simp
  | error refusal =>
    simp only [Prod.mk.injEq, Except.error.injEq]
    exact and_congr_right fun _ => eq_comm

private theorem mem_select_normalTerms {set : TermSet} (h : normalTerms e.terms = .ok set) (v : Visibility)
    (n : String) :
    n ∈ e.visibility.select v set ↔ n ≠ "" ∧ e.Lists n v := by
  rw [VisibilityMap.mem_select, mem_normalTerms h, and_assoc, Entry.Lists]

private theorem isWord_of_mem_select {set : TermSet} (h : normalTerms e.terms = .ok set) (v : Visibility) :
    ∀ n ∈ e.visibility.select v set, Text.IsWord n := by
  intro n hn
  obtain ⟨hne, ⟨term, hterm, rfl⟩, _⟩ := (mem_select_normalTerms h v n).1 hn
  exact isWord_of_normalTerms h term hterm hne

private theorem lowercase_of_mem_select {set : TermSet} (h : normalTerms e.terms = .ok set) (v : Visibility) :
    ∀ n ∈ e.visibility.select v set, Term.normal n = n ∧ Text.lowercase n = n := by
  intro n hn
  obtain ⟨_, ⟨term, _, rfl⟩, _⟩ := (mem_select_normalTerms h v n).1 hn
  exact ⟨Term.normal_normal term, Term.lowercase_normal term⟩

private theorem tokenKeywords_of_ne_nil (c : Codec) (draw : Draw) (password : String) {terms : List String}
    (h : terms ≠ []) :
    tokenKeywords c draw password terms =
      (c.encrypt draw (String.intercalate " " terms) password).map fun token => [.token token] := by
  cases terms with
  | nil => exact absurd rfl h
  | cons term terms => rfl

/-- If no sealing fails, there is a token for all terms together, and none for no terms. -/
theorem tokenKeywords_eq_ok {c : Codec} {draw : Draw} {password : String} {terms : List String}
    {auto : List Keyword} (h : tokenKeywords c draw password terms = .ok auto) :
    (terms = [] ∧ auto = []) ∨ ∃ token, auto = [.token token] ∧
      c.encrypt draw (String.intercalate " " terms) password = .ok token := by
  by_cases hterms : terms = []
  · subst hterms
    cases h
    exact Or.inl ⟨rfl, rfl⟩
  · rw [tokenKeywords_of_ne_nil c draw password hterms] at h
    cases he : c.encrypt draw (String.intercalate " " terms) password with
    | error fault => rw [he] at h; cases h
    | ok token =>
      rw [he] at h
      cases h
      exact Or.inr ⟨token, rfl, rfl⟩

/-- Making a token fails exactly if there are terms and they cannot be sealed. -/
theorem tokenKeywords_eq_error {c : Codec} {draw : Draw} {password : String} {terms : List String}
    {fault : LedgerError} : tokenKeywords c draw password terms = .error fault ↔
      terms ≠ [] ∧ c.encrypt draw (String.intercalate " " terms) password = .error fault := by
  by_cases hterms : terms = []
  · subst hterms
    exact ⟨fun h => (by cases h), fun h => absurd rfl h.1⟩
  rw [tokenKeywords_of_ne_nil c draw password hterms, and_iff_right hterms]
  cases c.encrypt draw (String.intercalate " " terms) password with
  | error refusal => rw [Except.map, Except.error.injEq, Except.error.injEq]
  | ok token => exact ⟨fun h => (by cases h), fun h => (by cases h)⟩

/-- Anyone finds the block of an entry by its shown terms. -/
theorem shows_sealed (h : e.sealed l = .ok b) {n : String} (hn : n ≠ "") : Search.Shows b n ↔ e.Lists n .shown := by
  obtain ⟨-, set, auto, ciphertext, hset, hauto, -, rfl⟩ := sealed_eq_ok.1 h
  have hnone : auto.filterMap Keyword.shown? = [] := by
    rcases tokenKeywords_eq_ok hauto with ⟨-, rfl⟩ | ⟨token, rfl, -⟩ <;> rfl
  have hshown : ((e.visibility.select .shown set).map Keyword.ofTerm).filterMap Keyword.shown? =
      e.visibility.select .shown set := by
    rw [List.filterMap_map]
    conv_rhs => rw [← List.filterMap_some (l := e.visibility.select .shown set)]
    refine List.filterMap_congr fun m hm => ?_
    exact congrArg some (lowercase_of_mem_select hset .shown m hm).1
  simp only [Search.Shows, Entry.manualKeywords_block, Entry.autoKeywords_block, List.filterMap_append, hnone, hshown,
    List.append_nil]
  constructor
  · rintro ⟨m, hm, rfl⟩
    rw [(lowercase_of_mem_select hset .shown m hm).2]
    exact ((mem_select_normalTerms hset .shown m).1 hm).2
  · intro hlists
    have hm := (mem_select_normalTerms hset .shown n).2 ⟨hn, hlists⟩
    exact ⟨n, hm, (lowercase_of_mem_select hset .shown n hm).2⟩

/-- The password of an entry, and no other, finds its block by its hidden terms. -/
theorem opens_sealed (hc : l.codec.Faithful) (hne : l.codec.NoEmptyToken) (h : e.sealed l = .ok b)
    {n : String} (hn : n ≠ "") (q : String) : Search.Opens l.codec q b n ↔ e.Lists n .hidden ∧ q = e.password := by
  obtain ⟨-, set, auto, ciphertext, hset, hauto, -, rfl⟩ := sealed_eq_ok.1 h
  have hmem : n ∈ e.visibility.select .hidden set ↔ e.Lists n .hidden := by
    rw [mem_select_normalTerms hset, and_iff_right hn]
  rcases tokenKeywords_eq_ok hauto with ⟨hnil, rfl⟩ | ⟨token, rfl, htoken⟩
  · rw [hnil] at hmem
    simp [Search.Opens, ← hmem]
  have hwords : Text.words (String.intercalate " " (e.visibility.select .hidden set)) =
      e.visibility.select .hidden set :=
    Text.words_intercalate (isWord_of_mem_select hset .hidden)
  simp only [Search.Opens, Entry.autoKeywords_block, List.filterMap_cons, Keyword.hidden?, List.filterMap_nil,
    List.mem_singleton, exists_eq_left, Text.words_of_isWord ⟨hne htoken, hc.spaceless htoken⟩, hc.looks htoken,
    hc.opens htoken, true_and]
  by_cases hq : q = e.password
  · simp only [hq, if_true, Option.mem_some_iff, exists_eq_left', hwords, and_true, ← hmem]
    constructor
    · rintro ⟨m, hm, rfl⟩
      rwa [(lowercase_of_mem_select hset .hidden m hm).2]
    · exact fun hm => ⟨n, hm, (lowercase_of_mem_select hset .hidden n hm).2⟩
  · simp [hq]

end Ledger

end TieredLedger
