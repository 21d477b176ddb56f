import Mathlib.Tactic.IntervalCases
import TieredLedger.Bytes.Base64
import TieredLedger.Proofs.Bytes

/-! Base64 text is read back into the bytes it was made of, in either alphabet. Text without padding that is accepted is
the text of the bytes that it is read as, so that no other text stands for them. -/
namespace TieredLedger.Base64

def Alphabet.Proper (α : Alphabet) : Prop := ∀ n < 64, α.value? (α.symbol n) = some n ∧ α.symbol n ≠ pad

/-- The usual alphabet is proper. -/
theorem Alphabet.proper_standard : Alphabet.standard.Proper := by
  rw [Proper]
  decide

/-- The alphabet for addresses is proper. -/
theorem Alphabet.proper_urlSafe : Alphabet.urlSafe.Proper := by
  rw [Proper]
  decide

variable {α : Alphabet}

private theorem readSymbol_symbol (hα : α.Proper) (offset : Nat) {n : Nat} (hn : n < 64) :
    readSymbol α offset (α.symbol n) = .ok n := by
  rw [readSymbol, (hα n hn).1]

private theorem readLast_symbols (hα : α.Proper) (offset index fillers : Nat) {values : List Nat}
    (hvalues : ∀ v ∈ values, v < 64) (hplace : fillers ≠ 0 → 2 ≤ index + values.length) :
    readLast α offset index (values.map α.symbol ++ List.replicate fillers pad) = .ok (values, fillers) := by
  induction values generalizing index with
  | nil =>
    cases fillers with
    | zero => rfl
    | succ fillers =>
      have hindex : 2 ≤ index := by simpa using hplace
      rw [List.map_nil, List.nil_append, List.replicate_succ, readLast, if_pos rfl, if_pos (by simp [hindex])]
      simp
  | cons v values ih =>
    have hv := hvalues v List.mem_cons_self
    have hrest := ih (index + 1) (fun w hw => hvalues w (List.mem_cons_of_mem v hw)) (fun h => by
      have := hplace h
      rw [List.length_cons] at this
      omega)
    rw [List.map_cons, List.cons_append, readLast, if_neg (hα v hv).2, readSymbol_symbol hα _ hv]
    simp only [bind, Except.bind, hrest]
    rfl

private theorem decodeLast_symbols (hα : α.Proper) (offset fillers : Nat) {values : List Nat} {bytes : Bytes}
    (hvalues : ∀ v ∈ values, v < 64) (hlength : 2 ≤ values.length)
    (hfill : if α.padded then (values.length + fillers) % 4 = 0 else fillers = 0)
    (hjoin : joinLast values = (bytes, 0)) :
    decodeLast α offset (values.map α.symbol ++ List.replicate fillers pad) = .ok bytes := by
  have hread := readLast_symbols hα offset 0 fillers hvalues (fun _ => by omega)
  have hgiven : (values.map α.symbol ++ List.replicate fillers pad).isEmpty = false := by
    cases values with
    | nil => cases hlength
    | cons v values => rfl
  rw [decodeLast, hread]
  simp only [bind, Except.bind, hgiven, if_neg (Nat.not_lt.2 hlength), hjoin]
  cases hpadded : α.padded <;> simp_all [pure, Except.pure]

private theorem joinLast_one (a : UInt8) : joinLast [a.toNat / 4, a.toNat % 4 * 16] = ([a], 0) := by
  have hbyte : a.toNat / 4 * 4 + a.toNat % 4 * 16 / 16 = a.toNat := by omega
  have hspare : a.toNat % 4 * 16 % 16 = 0 := by omega
  rw [joinLast, hbyte, hspare, UInt8.ofNat_toNat]

private theorem joinLast_two (a b : UInt8) :
    joinLast [a.toNat / 4, a.toNat % 4 * 16 + b.toNat / 16, b.toNat % 16 * 4] = ([a, b], 0) := by
  have hb := b.toNat_lt
  have hfirst : a.toNat / 4 * 4 + (a.toNat % 4 * 16 + b.toNat / 16) / 16 = a.toNat := by omega
  have hsecond : (a.toNat % 4 * 16 + b.toNat / 16) % 16 * 16 + b.toNat % 16 * 4 / 4 = b.toNat := by omega
  have hspare : b.toNat % 16 * 4 % 4 = 0 := by omega
  rw [joinLast, hfirst, hsecond, hspare, UInt8.ofNat_toNat, UInt8.ofNat_toNat]

private theorem join_three (a b c : UInt8) :
    UInt8.ofNat (a.toNat / 4 * 4 + (a.toNat % 4 * 16 + b.toNat / 16) / 16) = a ∧
      UInt8.ofNat ((a.toNat % 4 * 16 + b.toNat / 16) % 16 * 16 + (b.toNat % 16 * 4 + c.toNat / 64) / 4) = b ∧
      UInt8.ofNat ((b.toNat % 16 * 4 + c.toNat / 64) % 4 * 64 + c.toNat % 64) = c := by
  have hb := b.toNat_lt
  have hc := c.toNat_lt
  have hfirst : a.toNat / 4 * 4 + (a.toNat % 4 * 16 + b.toNat / 16) / 16 = a.toNat := by omega
  have hsecond : (a.toNat % 4 * 16 + b.toNat / 16) % 16 * 16 + (b.toNat % 16 * 4 + c.toNat / 64) / 4 = b.toNat := by
    omega
  have hthird : (b.toNat % 16 * 4 + c.toNat / 64) % 4 * 64 + c.toNat % 64 = c.toNat := by omega
  rw [hfirst, hsecond, hthird, UInt8.ofNat_toNat, UInt8.ofNat_toNat, UInt8.ofNat_toNat]
  exact ⟨rfl, rfl, rfl⟩

private theorem decodeGroups_of_length_le (offset : Nat) {group : Bytes} (h : group.length ≤ 4) :
    decodeGroups α offset group = decodeLast α offset group := by
  match group with
  | [] | [_] | [_, _] | [_, _, _] | [_, _, _, _] => rfl
  | _ :: _ :: _ :: _ :: _ :: _ =>
    simp only [List.length_cons] at h
    omega

private theorem exists_encode_cons {bs : Bytes} (h : bs ≠ []) : ∃ s rest, encode α bs = s :: rest := by
  match bs with
  | [] => exact absurd rfl h
  | [_] => exact ⟨_, _, rfl⟩
  | [_, _] => exact ⟨_, _, rfl⟩
  | _ :: _ :: _ :: _ => exact ⟨_, _, rfl⟩

private theorem decodeGroups_last (hα : α.Proper) (offset fillers : Nat) {values : List Nat} {bytes : Bytes}
    (hvalues : ∀ v ∈ values, v < 64) (hlength : 2 ≤ values.length ∧ values.length + fillers ≤ 4)
    (hfill : if α.padded then values.length + fillers = 4 else fillers = 0) (hjoin : joinLast values = (bytes, 0)) :
    decodeGroups α offset (values.map α.symbol ++ List.replicate fillers pad) = .ok bytes := by
  have hmod : if α.padded then (values.length + fillers) % 4 = 0 else fillers = 0 := by
    split at hfill
    · simp [*]
    · simp [*]
  rw [decodeGroups_of_length_le offset (by simpa using hlength.2),
    decodeLast_symbols hα offset fillers hvalues hlength.1 hmod hjoin]

private theorem decodeGroups_encode_one (hα : α.Proper) (offset : Nat) (a : UInt8) :
    decodeGroups α offset (encode α [a]) = .ok [a] := by
  have ha := a.toNat_lt
  have hencode : encode α [a] = [a.toNat / 4, a.toNat % 4 * 16].map α.symbol ++
      List.replicate (if α.padded then 2 else 0) pad := by
    rw [encode]
    cases α.padded <;> rfl
  rw [hencode]
  refine decodeGroups_last hα offset _ ?_ ?_ ?_ (joinLast_one a)
  · simp
    omega
  · cases α.padded <;> simp
  · cases α.padded <;> simp

private theorem decodeGroups_encode_two (hα : α.Proper) (offset : Nat) (a b : UInt8) :
    decodeGroups α offset (encode α [a, b]) = .ok [a, b] := by
  have ha := a.toNat_lt
  have hb := b.toNat_lt
  have hencode : encode α [a, b] =
      [a.toNat / 4, a.toNat % 4 * 16 + b.toNat / 16, b.toNat % 16 * 4].map α.symbol ++
        List.replicate (if α.padded then 1 else 0) pad := by
    rw [encode]
    cases α.padded <;> rfl
  rw [hencode]
  refine decodeGroups_last hα offset _ ?_ ?_ ?_ (joinLast_two a b)
  · simp
    omega
  · cases α.padded <;> simp
  · cases α.padded <;> simp

private theorem decodeGroups_encode (hα : α.Proper) (offset : Nat) (bs : Bytes) :
    decodeGroups α offset (encode α bs) = .ok bs := by
  induction bs using encode.induct generalizing offset with
  | case1 => rfl
  | case2 a => exact decodeGroups_encode_one hα offset a
  | case3 a b => exact decodeGroups_encode_two hα offset a b
  | case4 a b c rest ih =>
    have ha := a.toNat_lt
    have hb := b.toNat_lt
    have hc := c.toNat_lt
    obtain ⟨hfirst, hsecond, hthird⟩ := join_three a b c
    by_cases hrest : rest = []
    · subst hrest
      have hjoin : joinLast [a.toNat / 4, a.toNat % 4 * 16 + b.toNat / 16, b.toNat % 16 * 4 + c.toNat / 64,
          c.toNat % 64] = ([a, b, c], 0) := by
        rw [joinLast, hfirst, hsecond, hthird]
      refine decodeGroups_last hα offset 0 ?_ ?_ ?_ hjoin
      · simp
        omega
      · simp
      · split <;> rfl
    · obtain ⟨s, more, hmore⟩ := exists_encode_cons (α := α) hrest
      have hdecode := ih (offset + 4)
      rw [hmore] at hdecode
      rw [encode, hmore, decodeGroups, readSymbol_symbol hα _ (by omega), readSymbol_symbol hα _ (by omega),
        readSymbol_symbol hα _ (by omega), readSymbol_symbol hα _ (by omega)]
      simp only [bind, Except.bind, hdecode, hfirst, hsecond, hthird]
      rfl

private theorem length_encode_mod (bs : Bytes) : (encode α bs).length % 4 ≠ 1 := by
  induction bs using encode.induct with
  | case1 => simp [encode]
  | case2 a => cases hpadded : α.padded <;> simp [encode, hpadded]
  | case3 a b => cases hpadded : α.padded <;> simp [encode, hpadded]
  | case4 a b c rest ih =>
    rw [encode]
    simp only [List.length_cons]
    omega

/-- The text of some bytes stands for those bytes. -/
theorem decode_encode (hα : α.Proper) (bs : Bytes) : decode α (encode α bs) = .ok bs := by
  rw [decode, strayEnd?, if_neg (length_encode_mod bs)]
  exact decodeGroups_encode hα 0 bs

/-- Text without padding consists of symbols. -/
theorem exists_symbol_of_mem_encode (hα : α.padded = false) {bs : Bytes} {b : UInt8} (h : b ∈ encode α bs) :
    ∃ n < 64, b = α.symbol n := by
  induction bs using encode.induct with
  | case1 => cases h
  | case2 a =>
    have ha := a.toNat_lt
    simp only [encode, hα, Bool.false_eq_true, if_false, List.append_nil, List.mem_cons, List.not_mem_nil,
      or_false] at h
    rcases h with h | h
    · exact ⟨_, by omega, h⟩
    · exact ⟨_, by omega, h⟩
  | case3 a b =>
    have ha := a.toNat_lt
    have hb := b.toNat_lt
    simp only [encode, hα, Bool.false_eq_true, if_false, List.append_nil, List.mem_cons, List.not_mem_nil,
      or_false] at h
    rcases h with h | h | h
    · exact ⟨_, by omega, h⟩
    · exact ⟨_, by omega, h⟩
    · exact ⟨_, by omega, h⟩
  | case4 a b c rest ih =>
    have ha := a.toNat_lt
    have hb := b.toNat_lt
    have hc := c.toNat_lt
    simp only [encode, List.mem_cons] at h
    rcases h with h | h | h | h | h
    · exact ⟨_, by omega, h⟩
    · exact ⟨_, by omega, h⟩
    · exact ⟨_, by omega, h⟩
    · exact ⟨_, by omega, h⟩
    · exact ih h

/-- The text of bytes below 128 has just these bytes. -/
theorem ofText_asText {symbols : Bytes} (h : ∀ b ∈ symbols, b.toNat < 128) :
    Bytes.ofText (asText symbols) = symbols := by
  have hchar : ∀ n < 128, String.utf8EncodeChar (Char.ofNat n) = [UInt8.ofNat n] := by decide
  rw [asText, Bytes.ofText_ofList]
  induction symbols with
  | nil => rfl
  | cons b symbols ih =>
    rw [List.map_cons, List.flatMap_cons, hchar b.toNat (h b List.mem_cons_self), UInt8.ofNat_toNat,
      ih fun c hc => h c (List.mem_cons_of_mem b hc)]
    rfl

section Canonical

def Alphabet.Exact (α : Alphabet) : Prop := ∀ b v, α.value? b = some v → v < 64 ∧ α.symbol v = b

/-- In the alphabet for addresses only the symbol of a number stands for it. -/
theorem Alphabet.exact_urlSafe : Alphabet.urlSafe.Exact := by
  have htable : ∀ n < 256, ∀ v ∈ Alphabet.urlSafe.value? (UInt8.ofNat n),
      v < 64 ∧ Alphabet.urlSafe.symbol v = UInt8.ofNat n := by
    decide +kernel
  intro b v hv
  have hb := htable b.toNat b.toNat_lt v
  rw [UInt8.ofNat_toNat] at hb
  exact hb hv

variable {offset index fillers : Nat} {group text bytes : Bytes} {values : List Nat}

private theorem symbol_of_readSymbol (hα : α.Exact) {b : UInt8} {v : Nat} (h : readSymbol α offset b = .ok v) :
    v < 64 ∧ α.symbol v = b := by
  rw [readSymbol] at h
  split at h
  · next w hw =>
    obtain rfl := Except.ok.inj h
    exact hα b w hw
  · cases h

private theorem symbols_of_readLast (hα : α.Exact) (h : readLast α offset index group = .ok (values, 0)) :
    group = values.map α.symbol ∧ ∀ v ∈ values, v < 64 := by
  induction group generalizing index values with
  | nil =>
    cases h
    simp
  | cons b rest ih =>
    rw [readLast] at h
    split at h
    · split at h
      · cases h
      · cases h
    · simp only [bind, Except.bind] at h
      split at h
      · cases h
      next v hv =>
      split at h
      · cases h
      next tail htail =>
      obtain ⟨vs, fillers⟩ := tail
      cases h
      obtain ⟨hrest, hvs⟩ := ih htail
      obtain ⟨hlt, hsymbol⟩ := symbol_of_readSymbol hα hv
      refine ⟨by rw [List.map_cons, hsymbol, ← hrest], fun w hw => ?_⟩
      rcases List.mem_cons.1 hw with rfl | hw
      · exact hlt
      · exact hvs w hw

private theorem split_three {u v w x : Nat} (hu : u < 64) (hv : v < 64) (hw : w < 64) (hx : x < 64) :
    let a := UInt8.ofNat (u * 4 + v / 16)
    let b := UInt8.ofNat (v % 16 * 16 + w / 4)
    let c := UInt8.ofNat (w % 4 * 64 + x)
    a.toNat / 4 = u ∧ a.toNat % 4 * 16 + b.toNat / 16 = v ∧ b.toNat % 16 * 4 + c.toNat / 64 = w ∧ c.toNat % 64 = x := by
  intro a b c
  have ha : a.toNat = u * 4 + v / 16 := UInt8.toNat_ofNat_of_lt' (by change _ < 256; omega)
  have hb : b.toNat = v % 16 * 16 + w / 4 := UInt8.toNat_ofNat_of_lt' (by change _ < 256; omega)
  have hc : c.toNat = w % 4 * 64 + x := UInt8.toNat_ofNat_of_lt' (by change _ < 256; omega)
  omega

private theorem encode_of_joinLast (hα : α.padded = false) (hvalues : ∀ v ∈ values, v < 64)
    (hlength : 2 ≤ values.length ∧ values.length ≤ 4) (hjoin : joinLast values = (bytes, 0)) :
    encode α bytes = values.map α.symbol := by
  match values with
  | [] | [_] | _ :: _ :: _ :: _ :: _ :: _ =>
    simp only [List.length_cons, List.length_nil] at hlength
    omega
  | [u, v] =>
    simp only [List.forall_mem_cons] at hvalues
    obtain ⟨rfl, hspare⟩ := Prod.mk.inj hjoin
    obtain ⟨hfirst, hsecond, -⟩ := split_three hvalues.1 hvalues.2.1 (Nat.zero_lt_succ 63) (Nat.zero_lt_succ 63)
    have hlast : (UInt8.ofNat (u * 4 + v / 16)).toNat % 4 * 16 = v := by
      rw [hspare] at hsecond
      simpa using hsecond
    simp only [encode, hα, hfirst, hlast]
    rfl
  | [u, v, w] =>
    simp only [List.forall_mem_cons] at hvalues
    obtain ⟨rfl, hspare⟩ := Prod.mk.inj hjoin
    obtain ⟨hfirst, hsecond, hthird, -⟩ :=
      split_three hvalues.1 hvalues.2.1 hvalues.2.2.1 (Nat.zero_lt_succ 63)
    have hlast : (UInt8.ofNat (v % 16 * 16 + w / 4)).toNat % 16 * 4 = w := by
      rw [hspare] at hthird
      simpa using hthird
    simp only [encode, hα, hfirst, hsecond, hlast]
    rfl
  | [u, v, w, x] =>
    simp only [List.forall_mem_cons] at hvalues
    obtain ⟨rfl, -⟩ := Prod.mk.inj hjoin
    obtain ⟨hfirst, hsecond, hthird, hfourth⟩ :=
      split_three hvalues.1 hvalues.2.1 hvalues.2.2.1 hvalues.2.2.2.1
    simp only [encode, hfirst, hsecond, hthird, hfourth]
    rfl

private theorem decodeLast_eq_ok (hexact : α.Exact) (hα : α.padded = false) (hgroup : group ≠ [])
    (h : decodeLast α offset group = .ok bytes) :
    ∃ values, group = values.map α.symbol ∧ (∀ v ∈ values, v < 64) ∧ 2 ≤ values.length ∧
      joinLast values = (bytes, 0) := by
  have hgiven : group.isEmpty = false := by simpa using hgroup
  rw [decodeLast] at h
  simp only [bind, Except.bind, hgiven, hα, Bool.false_eq_true, if_false] at h
  split at h
  · cases h
  next read hread =>
  obtain ⟨values, fillers⟩ := read
  split at h
  · cases h
  next hshort =>
  split at h
  · cases h
  next hfill =>
  split at h
  · cases h
  next hspare =>
  cases h
  obtain rfl : fillers = 0 := Decidable.of_not_not hfill
  obtain ⟨hsymbols, hvalues⟩ := symbols_of_readLast hexact hread
  exact ⟨values, hsymbols, hvalues, Nat.le_of_not_lt hshort, Prod.ext rfl (Decidable.of_not_not hspare)⟩

private theorem encode_of_decodeLast (hexact : α.Exact) (hα : α.padded = false) (hlength : group.length ≤ 4)
    (h : decodeLast α offset group = .ok bytes) : encode α bytes = group := by
  by_cases hgroup : group = []
  · subst hgroup
    cases h
    rfl
  · obtain ⟨values, rfl, hvalues, hlong, hjoin⟩ := decodeLast_eq_ok hexact hα hgroup h
    rw [List.length_map] at hlength
    exact encode_of_joinLast hα hvalues ⟨hlong, hlength⟩ hjoin

private theorem encode_of_decodeGroups (hexact : α.Exact) (hα : α.padded = false)
    (h : decodeGroups α offset text = .ok bytes) : encode α bytes = text := by
  induction offset, text using decodeGroups.induct generalizing bytes with
  | case1 offset a b c d e rest ih =>
    rw [decodeGroups] at h
    simp only [bind, Except.bind] at h
    split at h
    · cases h
    next u hu =>
    split at h
    · cases h
    next v hv =>
    split at h
    · cases h
    next w hw =>
    split at h
    · cases h
    next x hx =>
    split at h
    · cases h
    next more hmore =>
    cases h
    obtain ⟨hul, rfl⟩ := symbol_of_readSymbol hexact hu
    obtain ⟨hvl, rfl⟩ := symbol_of_readSymbol hexact hv
    obtain ⟨hwl, rfl⟩ := symbol_of_readSymbol hexact hw
    obtain ⟨hxl, rfl⟩ := symbol_of_readSymbol hexact hx
    obtain ⟨hfirst, hsecond, hthird, hfourth⟩ := split_three hul hvl hwl hxl
    rw [encode, hfirst, hsecond, hthird, hfourth, ih hmore]
  | case2 offset group hgroup =>
    have hlength : group.length ≤ 4 := by
      match group with
      | [] | [_] | [_, _] | [_, _, _] | [_, _, _, _] => simp
      | a :: b :: c :: d :: e :: rest => exact absurd rfl (hgroup a b c d e rest)
    rw [decodeGroups_of_length_le offset hlength] at h
    exact encode_of_decodeLast hexact hα hlength h

/-- A text without padding that is accepted is the text of the bytes that it stands for. -/
theorem encode_of_decode (hexact : α.Exact) (hα : α.padded = false) (h : decode α text = .ok bytes) :
    encode α bytes = text := by
  rw [decode] at h
  split at h
  · cases h
  · exact encode_of_decodeGroups hexact hα h

/-- Unpadded text has four symbols for three bytes, and as many as the bits of the rest ask for. -/
theorem length_encode (hα : α.padded = false) (bs : Bytes) : (encode α bs).length = (4 * bs.length + 2) / 3 := by
  induction bs using encode.induct with
  | case1 => rfl
  | case2 a => simp [encode, hα]
  | case3 a b => simp [encode, hα]
  | case4 a b c rest ih =>
    simp only [encode, List.length_cons, ih]
    omega

end Canonical

section Padded

def standardSymbols : Bytes := Bytes.ofText "ABCDEFGHIJKLMNOPQRSTUVWXYZabcdefghijklmnopqrstuvwxyz0123456789+/"

/-- Padded text: whole groups of four bytes, which are symbols but for up to two fillers at the end. -/
structure IsPadded (text : Bytes) : Prop where
  whole : text.length % 4 = 0
  symbols : ∃ front fillers, text = front ++ List.replicate fillers pad ∧ fillers ≤ 2 ∧ ∀ b ∈ front, b ∈ standardSymbols

private theorem symbol_mem : ∀ n < 64, Alphabet.standard.symbol n ∈ standardSymbols := by decide +kernel

private theorem IsPadded.group {text : Bytes} (h : IsPadded text) {u v w x : Nat} (hu : u < 64) (hv : v < 64)
    (hw : w < 64) (hx : x < 64) :
    IsPadded (Alphabet.standard.symbol u :: Alphabet.standard.symbol v :: Alphabet.standard.symbol w ::
      Alphabet.standard.symbol x :: text) := by
  obtain ⟨front, fillers, rfl, hfillers, hfront⟩ := h.symbols
  refine ⟨?_, Alphabet.standard.symbol u :: Alphabet.standard.symbol v :: Alphabet.standard.symbol w ::
    Alphabet.standard.symbol x :: front, fillers, rfl, hfillers, ?_⟩
  · have := h.whole
    simp only [List.length_cons]
    omega
  · simp only [List.forall_mem_cons]
    exact ⟨symbol_mem u hu, symbol_mem v hv, symbol_mem w hw, symbol_mem x hx, hfront⟩

/-- What the usual alphabet encodes is padded. -/
theorem isPadded_encode (bs : Bytes) : IsPadded (encode .standard bs) := by
  induction bs using encode.induct with
  | case1 => exact ⟨rfl, [], 0, rfl, Nat.zero_le 2, by simp⟩
  | case2 a =>
    have ha := a.toNat_lt
    rw [encode, if_pos (by rfl)]
    refine ⟨by simp, [Alphabet.standard.symbol (a.toNat / 4), Alphabet.standard.symbol (a.toNat % 4 * 16)], 2, rfl,
      Nat.le_refl 2, ?_⟩
    simp only [List.forall_mem_cons]
    exact ⟨symbol_mem _ (by omega), symbol_mem _ (by omega), by simp⟩
  | case3 a b =>
    have ha := a.toNat_lt
    have hb := b.toNat_lt
    rw [encode, if_pos (by rfl)]
    refine ⟨by simp, [Alphabet.standard.symbol (a.toNat / 4), Alphabet.standard.symbol (a.toNat % 4 * 16 + b.toNat / 16),
      Alphabet.standard.symbol (b.toNat % 16 * 4)], 1, rfl, Nat.le_succ 1, ?_⟩
    simp only [List.forall_mem_cons]
    exact ⟨symbol_mem _ (by omega), symbol_mem _ (by omega), symbol_mem _ (by omega), by simp⟩
  | case4 a b c rest ih =>
    have ha := a.toNat_lt
    have hb := b.toNat_lt
    have hc := c.toNat_lt
    rw [encode]
    exact ih.group (by omega) (by omega) (by omega) (by omega)

/-- Every byte of a padded text is a visible ASCII character. -/
theorem IsPadded.visible {text : Bytes} (h : IsPadded text) : ∀ b ∈ text, 32 < b.toNat ∧ b.toNat < 127 := by
  have hsymbols : ∀ b ∈ standardSymbols, 32 < b.toNat ∧ b.toNat < 127 := by decide +kernel
  obtain ⟨front, fillers, rfl, -, hfront⟩ := h.symbols
  intro b hb
  rcases List.mem_append.1 hb with hb | hb
  · exact hsymbols b (hfront b hb)
  · rw [List.eq_of_mem_replicate hb]
    decide

end Padded
end TieredLedger.Base64
