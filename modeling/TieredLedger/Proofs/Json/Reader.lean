import TieredLedger.Json.Printer
import TieredLedger.Json.Reader
import TieredLedger.Proofs.Text.Number

/-! JSON text over several lines is read back into the value that was written. -/
namespace TieredLedger.Json

open Text (NoDigitNext)

section Literals

private def unit (c : Char) : Unit16 :=
  if c.toNat < 0x20 ∧ c ∉ ['\x08', '\t', '\n', '\x0C', '\r'] then .code c.toNat else .char c

private theorem codeUnit?_control : ∀ n < 32,
    codeUnit? '0' '0' (Bytes.hexDigit ((UInt8.ofNat n).toNat / 16)) (Bytes.hexDigit ((UInt8.ofNat n).toNat % 16)) =
      some n := by
  decide

private theorem readUnits_char {c : Char} (found : List Unit16) (cs : List Char) (hquote : c ≠ '"') (hslash : c ≠ '\\')
    (hcontrol : ¬ c.toNat < 0x20) : readUnits found (c :: cs) = readUnits (.char c :: found) cs := by
  rw [readUnits.eq_def]
  split
  · next heq => exact absurd (List.cons.inj heq).1 hquote
  · next heq => exact absurd (List.cons.inj heq).1 hslash
  · next heq => exact absurd (List.cons.inj heq).1 hslash
  · next heq =>
    obtain ⟨rfl, rfl⟩ := List.cons.inj heq
    rw [if_neg (by simp [hcontrol, hslash])]
  · next heq => cases heq

private theorem readUnits_escape (found : List Unit16) (c : Char) (cs : List Char) :
    readUnits found (escape c ++ cs) = readUnits (unit c :: found) cs := by
  unfold escape
  split
  · subst_vars; rfl
  split
  · subst_vars; rfl
  split
  · subst_vars; rfl
  split
  · subst_vars; rfl
  split
  · subst_vars; rfl
  split
  · subst_vars; rfl
  split
  · subst_vars; rfl
  split
  · next hquote hslash hback htab hline hfeed hreturn hcontrol =>
    have hunit : unit c = .code c.toNat := if_pos ⟨hcontrol, by simp [*]⟩
    rw [hunit, Bytes.hexPair]
    simp only [List.cons_append, List.nil_append]
    rw [readUnits, codeUnit?_control c.toNat hcontrol]
  · next hquote hslash hback htab hline hfeed hreturn hcontrol =>
    have hunit : unit c = .char c := if_neg fun h => hcontrol h.1
    rw [hunit]
    exact readUnits_char found cs hquote hslash hcontrol

private theorem readUnits_literal (found : List Unit16) (cs rest : List Char) :
    readUnits found (cs.flatMap escape ++ '"' :: rest) = some (found.reverse ++ cs.map unit, rest) := by
  induction cs generalizing found with
  | nil => simp [readUnits]
  | cons c cs ih =>
    rw [List.flatMap_cons, List.append_assoc, readUnits_escape, ih]
    simp

private theorem joinUnits_units (found cs : List Char) :
    joinUnits found (cs.map unit) = some (found.reverse ++ cs) := by
  induction cs generalizing found with
  | nil => simp [joinUnits]
  | cons c cs ih =>
    have hstep : joinUnits found (unit c :: cs.map unit) = joinUnits (c :: found) (cs.map unit) := by
      rw [unit]
      split
      · next h =>
        have hlow : ¬ (0xD800 ≤ c.toNat ∧ c.toNat < 0xDC00) := by omega
        have hhigh : ¬ (0xDC00 ≤ c.toNat ∧ c.toNat < 0xE000) := by omega
        rw [joinUnits.eq_def]
        dsimp only
        rw [if_neg hlow, if_neg hhigh, Char.ofNat_toNat]
      · rfl
    rw [List.map_cons, hstep, ih]
    simp

private def literal : Option String → List Char
  | some s => s.toList.flatMap escape ++ ['"']
  | none => ['\\', 'u', 'd', '8', '0', '0', '"']

private theorem toList_quoteText (s : Option String) : (quoteText s).toList = '"' :: literal s := by
  cases s with
  | none => decide
  | some s => simp [quoteText, quote, literal]

private theorem readString_literal (s : Option String) (rest : List Char) :
    readString (literal s ++ rest) = some (s, rest) := by
  cases s with
  | none => rfl
  | some s =>
    have hread := readUnits_literal [] s.toList rest
    have hjoin := joinUnits_units [] s.toList
    rw [literal, List.append_assoc, List.singleton_append, readString, hread]
    simp only [List.reverse_nil, List.nil_append, Option.map_some] at hjoin ⊢
    rw [hjoin, Option.map_some, String.ofList_toList]

end Literals

section Numbers

private def Ended (rest : List Char) : Prop := ∀ c, rest.head? = some c → c = ',' ∨ c = '\n'

private theorem ended_cons {c : Char} {rest : List Char} (h : c = ',' ∨ c = '\n') : Ended (c :: rest) := by
  intro d hd
  cases hd
  exact h

private theorem Ended.noDigitNext {rest : List Char} (h : Ended rest) : NoDigitNext rest := by
  intro c hc
  rcases h c hc with rfl | rfl
  · rfl
  · rfl

private theorem readDigits_append {ds rest : List Char} (hne : ds ≠ []) (hds : ∀ c ∈ ds, c.isDigit = true)
    (hrest : NoDigitNext rest) : readDigits (ds ++ rest) = some (ds, rest) := by
  rw [readDigits, Text.takeWhile_isDigit_append hds hrest]
  simp [hne]

private theorem readFraction_of_ended {rest : List Char} (h : Ended rest) : readFraction rest = some ([], rest) := by
  unfold readFraction
  split
  · rcases h _ rfl with hc | hc
    · cases hc
    · cases hc
  · rfl

private theorem readExponent_of_ended {rest : List Char} (h : Ended rest) : readExponent rest = some (none, rest) := by
  unfold readExponent
  split
  · rcases h _ rfl with hc | hc
    · cases hc
    · cases hc
  · rcases h _ rfl with hc | hc
    · cases hc
    · cases hc
  · rfl

private theorem readNumeral_natural (n : Nat) {rest : List Char} (h : Ended rest) :
    readNumeral false (Nat.toDigits 10 n ++ rest) = some (.natural n, rest) := by
  have hdigits := readDigits_append (Nat.toDigits_ne_nil (b := 10) (n := n))
    (fun c hc => Text.isDigit_of_mem_toDigits hc) h.noDigitNext
  have hlead : ¬ ((Nat.toDigits 10 n).length > 1 ∧ (Nat.toDigits 10 n).head? = some '0') := by
    rintro ⟨hlong, hzero⟩
    by_cases hn : n = 0
    · subst hn
      exact absurd hlong (by decide)
    · exact Text.head?_toDigits_ne_zero hn hzero
  rw [readNumeral, hdigits]
  simp only [Option.bind_eq_bind, Option.bind_some, if_neg hlead, readFraction_of_ended h, readExponent_of_ended h]
  simp [Text.ofDigits_toDigits]

end Numbers

section Layout

private theorem skip_cons {c : Char} {cs : List Char} (h : isSpace c = false) : skip (c :: cs) = c :: cs := by
  rw [skip, List.dropWhile_cons_of_neg (by rw [h]; exact Bool.false_ne_true)]

private theorem skip_newline (depth : Nat) {c : Char} {cs : List Char} (h : isSpace c = false) :
    skip ((newline depth).toList ++ c :: cs) = c :: cs := by
  have hspaces : ∀ d ∈ (newline depth).toList, isSpace d = true := by
    intro d hd
    rw [newline, String.toList_append, String.toList_ofList, List.mem_append] at hd
    rcases hd with hd | hd
    · rw [List.mem_singleton.1 hd]
      rfl
    · rw [String.toList_ofList] at hd
      rw [(List.mem_replicate.1 hd).2]
      rfl
  rw [skip, List.dropWhile_append_of_pos hspaces]
  exact skip_cons h

private def joined (depth : Nat) (closing : Char) : List String → List Char
  | [] => [closing]
  | [item] => item.toList ++ ((newline depth).toList ++ [closing])
  | item :: next :: rest => item.toList ++ ',' :: ((newline (depth + 1)).toList ++ joined depth closing (next :: rest))

private theorem toList_block_nil (opening closing : String) (depth : Nat) :
    (block opening closing depth []).toList = opening.toList ++ closing.toList := by
  rw [block, List.isEmpty_nil, if_pos rfl, String.toList_append]

private theorem toList_block {opening closing : String} (o c : Char) (ho : opening.toList = [o])
    (hc : closing.toList = [c]) (depth : Nat) {items : List String} (h : items ≠ []) :
    (block opening closing depth items).toList = o :: ((newline (depth + 1)).toList ++ joined depth c items) := by
  have hitems : (String.intercalate ("," ++ newline (depth + 1)) items).toList ++ ((newline depth).toList ++ [c]) =
      joined depth c items := by
    induction items with
    | nil => exact absurd rfl h
    | cons item items ih =>
      cases items with
      | nil => rw [String.intercalate_singleton, joined]
      | cons next rest =>
        rw [String.intercalate_cons_cons, joined, ← ih (List.cons_ne_nil next rest)]
        simp
  rw [block, if_neg (by simpa using h), ← hitems]
  simp [ho, hc]

end Layout

/-- A value whose numbers are all natural numbers written as digits alone. -/
inductive Plain : Json → Prop
  | null : Plain null
  | bool (b : Bool) : Plain (bool b)
  | string (s : Option String) : Plain (string s)
  | natural (n : Nat) : Plain (number (.natural n))
  | array {items : List Json} (h : ∀ item ∈ items, Plain item) : Plain (array items)
  | object {members : List (Option String × Json)} (h : ∀ member ∈ members, Plain member.2) : Plain (object members)

/-- What may be missing is plain if what is there is. -/
theorem Plain.option {α : Type} {write : α → Json} (h : ∀ a, Plain (write a)) (o : Option α) :
    Plain (option write o) := by
  cases o with
  | none => exact .null
  | some a => exact h a

/-- A record of plain values is plain. -/
theorem Plain.record {fields : List (String × Json)} (h : ∀ field ∈ fields, Plain field.2) : Plain (record fields) := by
  refine .object fun member hmember => ?_
  obtain ⟨field, hfield, rfl⟩ := List.mem_map.1 hmember
  exact h field hfield

section Values

private theorem prettyItems_eq_map (depth : Nat) (items : List Json) :
    prettyItems depth items = items.map (prettyFrom depth) := by
  induction items with
  | nil => rfl
  | cons item items ih => rw [prettyItems, ih, List.map_cons]

private def memberText (depth : Nat) (member : Option String × Json) : String :=
  quoteText member.1 ++ ": " ++ prettyFrom depth member.2

private theorem prettyMembers_eq_map (depth : Nat) (members : List (Option String × Json)) :
    prettyMembers depth members = members.map (memberText depth) := by
  induction members with
  | nil => rfl
  | cons member members ih => rw [prettyMembers, ih, List.map_cons, memberText]

private theorem toList_memberText (depth : Nat) (member : Option String × Json) :
    (memberText depth member).toList =
      '"' :: (literal member.1 ++ (':' :: ' ' :: (prettyFrom depth member.2).toList)) := by
  rw [memberText, String.toList_append, String.toList_append, toList_quoteText]
  simp

private theorem Plain.exists_cons {j : Json} (h : Plain j) (depth : Nat) :
    ∃ c cs, (prettyFrom depth j).toList = c :: cs ∧ isSpace c = false ∧ c ≠ ']' ∧ c ≠ '\x7d' := by
  cases h with
  | null => exact ⟨'n', ['u', 'l', 'l'], by rw [prettyFrom]; decide, by decide, by decide, by decide⟩
  | bool b =>
    cases b with
    | false => exact ⟨'f', ['a', 'l', 's', 'e'], by rw [prettyFrom]; decide, by decide, by decide, by decide⟩
    | true => exact ⟨'t', ['r', 'u', 'e'], by rw [prettyFrom]; decide, by decide, by decide, by decide⟩
  | string s => exact ⟨'"', literal s, by rw [prettyFrom, toList_quoteText], by decide, by decide, by decide⟩
  | natural n =>
    cases hdigits : Nat.toDigits 10 n with
    | nil => exact absurd hdigits Nat.toDigits_ne_nil
    | cons c cs =>
      have hc : c.isDigit = true := Text.isDigit_of_mem_toDigits (hdigits ▸ List.mem_cons_self)
      refine ⟨c, cs, ?_, ?_, ?_, ?_⟩
      · rw [prettyFrom, Numeral.write, Nat.toString_eq_ofList_toDigits, String.toList_ofList, hdigits]
      · rw [Bool.eq_false_iff]
        intro hspace
        simp only [isSpace, Bool.or_eq_true, decide_eq_true_eq] at hspace
        rcases hspace with ((rfl | rfl) | rfl) | rfl <;> cases hc
      · rintro rfl
        cases hc
      · rintro rfl
        cases hc
  | @array items _ =>
    cases hitems : prettyItems (depth + 1) items with
    | nil =>
      refine ⟨'[', [']'], ?_, by decide, by decide, by decide⟩
      rw [prettyFrom, hitems, toList_block_nil]
      decide
    | cons item rest =>
      refine ⟨'[', (newline (depth + 1)).toList ++ joined depth ']' (item :: rest), ?_, by decide, by decide, by decide⟩
      rw [prettyFrom, hitems, toList_block '[' ']' rfl rfl depth (List.cons_ne_nil item rest)]
  | @object members _ =>
    cases hmembers : prettyMembers (depth + 1) members with
    | nil =>
      refine ⟨'\x7b', ['\x7d'], ?_, by decide, by decide, by decide⟩
      rw [prettyFrom, hmembers, toList_block_nil]
      decide
    | cons member rest =>
      refine ⟨'\x7b', (newline (depth + 1)).toList ++ joined depth '\x7d' (member :: rest), ?_, by decide, by decide,
        by decide⟩
      rw [prettyFrom, hmembers, toList_block '\x7b' '\x7d' rfl rfl depth (List.cons_ne_nil member rest)]

private def ReadsBack (j : Json) : Prop :=
  ∀ (depth fuel : Nat) (rest : List Char), Ended rest → (prettyFrom depth j).toList.length ≤ fuel →
    readValue fuel ((prettyFrom depth j).toList ++ rest) = some (j, rest)

private theorem length_pos {j : Json} (h : Plain j) (depth : Nat) : 1 ≤ (prettyFrom depth j).toList.length := by
  obtain ⟨c, cs, hcons, -⟩ := h.exists_cons depth
  rw [hcons]
  exact Nat.succ_le_succ (Nat.zero_le _)

private theorem ended_newline (depth : Nat) (rest : List Char) : Ended ((newline depth).toList ++ rest) := by
  have hcons : (newline depth).toList = '\n' :: List.replicate (2 * depth) ' ' := by simp [newline]
  rw [hcons]
  exact ended_cons (Or.inr rfl)

private theorem skip_comma (cs : List Char) : skip (',' :: cs) = ',' :: cs := skip_cons (by decide)

private theorem readItems_joined (depth : Nat) {items : List Json} (hne : items ≠ [])
    (hplain : ∀ item ∈ items, Plain item) (hread : ∀ item ∈ items, ReadsBack item) (fuel : Nat) (rest : List Char)
    (hfuel : (joined depth ']' (items.map (prettyFrom (depth + 1)))).length ≤ fuel) :
    readItems fuel (joined depth ']' (items.map (prettyFrom (depth + 1))) ++ rest) = some (items, rest) := by
  induction items generalizing fuel with
  | nil => exact absurd rfl hne
  | cons item items ih =>
    have hitem := hread item List.mem_cons_self (depth + 1)
    have hpos := length_pos (hplain item List.mem_cons_self) (depth + 1)
    cases fuel with
    | zero =>
      cases items <;> simp [joined] at hfuel
    | succ fuel =>
      cases items with
      | nil =>
        rw [List.map_cons, List.map_nil, joined] at hfuel ⊢
        simp only [List.length_append, List.length_singleton] at hfuel
        rw [List.append_assoc, List.append_assoc, List.singleton_append, readItems,
          hitem fuel _ (ended_newline depth _) (by omega)]
        simp only [Option.bind_eq_bind, Option.bind_some, skip_newline depth (show isSpace ']' = false by decide)]
      | cons next items =>
        rw [List.map_cons, List.map_cons, joined, ← List.map_cons] at hfuel ⊢
        simp only [List.length_append, List.length_cons] at hfuel
        obtain ⟨c, cs, hcons, hspace, -⟩ := (hplain next (by simp)).exists_cons (depth + 1)
        obtain ⟨more, hmore⟩ : ∃ more,
            joined depth ']' ((next :: items).map (prettyFrom (depth + 1))) ++ rest = c :: more := by
          cases items <;> simp [joined, hcons]
        have hrest := ih (List.cons_ne_nil next items) (fun i hi => hplain i (List.mem_cons_of_mem item hi))
          (fun i hi => hread i (List.mem_cons_of_mem item hi)) fuel (by omega)
        rw [List.append_assoc, List.cons_append, List.append_assoc, readItems,
          hitem fuel _ (ended_cons (Or.inl rfl)) (by omega)]
        simp only [Option.bind_eq_bind, Option.bind_some, skip_comma]
        rw [hmore, skip_newline (depth + 1) hspace, ← hmore, hrest]
        rfl

private theorem readMembers_joined (depth : Nat) {members : List (Option String × Json)} (hne : members ≠ [])
    (hplain : ∀ member ∈ members, Plain member.2) (hread : ∀ member ∈ members, ReadsBack member.2) (fuel : Nat)
    (rest : List Char) (hfuel : (joined depth '\x7d' (members.map (memberText (depth + 1)))).length ≤ fuel) :
    readMembers fuel (joined depth '\x7d' (members.map (memberText (depth + 1))) ++ rest) = some (members, rest) := by
  induction members generalizing fuel with
  | nil => exact absurd rfl hne
  | cons member members ih =>
    obtain ⟨key, value⟩ := member
    have hvalue : ReadsBack value := hread (key, value) List.mem_cons_self
    obtain ⟨c, cs, hcons, hspace, -⟩ := (hplain (key, value) List.mem_cons_self).exists_cons (depth + 1)
    have hcolon : ∀ tail, skip (':' :: tail) = ':' :: tail := fun tail => skip_cons (by decide)
    have hblank : ∀ tail, skip (' ' :: ((prettyFrom (depth + 1) value).toList ++ tail)) =
        (prettyFrom (depth + 1) value).toList ++ tail := by
      intro tail
      rw [skip, List.dropWhile_cons_of_pos (by decide), hcons, List.cons_append]
      exact skip_cons hspace
    cases fuel with
    | zero => cases members <;> simp [joined, toList_memberText] at hfuel
    | succ fuel =>
      cases members with
      | nil =>
        rw [List.map_cons, List.map_nil, joined, toList_memberText] at hfuel ⊢
        simp only [List.length_append, List.length_cons] at hfuel
        rw [List.cons_append, List.cons_append, readMembers]
        simp only [List.append_assoc, List.cons_append, readString_literal, Option.bind_eq_bind, Option.bind_some,
          hcolon, hblank]
        rw [hvalue (depth + 1) fuel _ (ended_newline depth _) (by omega)]
        simp only [Option.bind_some, List.nil_append, skip_newline depth (show isSpace '\x7d' = false by decide)]
      | cons next members =>
        rw [List.map_cons, List.map_cons, joined, ← List.map_cons, toList_memberText] at hfuel ⊢
        simp only [List.length_append, List.length_cons] at hfuel
        obtain ⟨more, hmore⟩ :
            ∃ more, joined depth '\x7d' ((next :: members).map (memberText (depth + 1))) ++ rest = '"' :: more := by
          cases members <;> simp [joined, toList_memberText]
        have hrest := ih (List.cons_ne_nil next members) (fun m hm => hplain m (List.mem_cons_of_mem _ hm))
          (fun m hm => hread m (List.mem_cons_of_mem _ hm)) fuel (by omega)
        rw [List.cons_append, List.cons_append, readMembers]
        simp only [List.append_assoc, List.cons_append, readString_literal, Option.bind_eq_bind, Option.bind_some,
          hcolon, hblank]
        rw [hvalue (depth + 1) fuel _ (ended_cons (Or.inl rfl)) (by omega)]
        simp only [Option.bind_some, skip_comma]
        rw [hmore, skip_newline (depth + 1) (show isSpace '"' = false by decide), ← hmore, hrest]
        rfl

private theorem readValue_digit {c : Char} (hc : c.isDigit = true) (fuel : Nat) (cs : List Char) :
    readValue (fuel + 1) (c :: cs) = (readNumeral false (c :: cs)).map fun (n, rest) => (number n, rest) := by
  have hne : ∀ d : Char, d.isDigit = false → c ≠ d := by
    rintro d hd rfl
    rw [hc] at hd
    cases hd
  rw [readValue.eq_def]
  dsimp only
  split
  · next heq => exact absurd (List.cons.inj heq).1 (hne _ (by decide))
  · next heq => exact absurd (List.cons.inj heq).1 (hne _ (by decide))
  · next heq => exact absurd (List.cons.inj heq).1 (hne _ (by decide))
  · next heq => exact absurd (List.cons.inj heq).1 (hne _ (by decide))
  · next heq => exact absurd (List.cons.inj heq).1 (hne _ (by decide))
  · next heq => exact absurd (List.cons.inj heq).1 (hne _ (by decide))
  · next heq => exact absurd (List.cons.inj heq).1 (hne _ (by decide))
  · rfl

private theorem readValue_array {c : Char} {cs rest : List Char} (hskip : skip rest = c :: cs) (hc : c ≠ ']')
    (fuel : Nat) : readValue (fuel + 1) ('[' :: rest) =
      (readItems fuel (c :: cs)).map fun (items, rest) => (array items, rest) := by
  rw [readValue, hskip]
  split
  · next heq => exact absurd (List.cons.inj heq).1 hc
  · rfl

private theorem readValue_object {c : Char} {cs rest : List Char} (hskip : skip rest = c :: cs) (hc : c ≠ '\x7d')
    (fuel : Nat) : readValue (fuel + 1) ('\x7b' :: rest) =
      (readMembers fuel (c :: cs)).map fun (members, rest) => (object members, rest) := by
  rw [readValue, hskip]
  split
  · next heq => exact absurd (List.cons.inj heq).1 hc
  · rfl

private theorem readsBack_natural (n : Nat) : ReadsBack (number (.natural n)) := by
  intro depth fuel rest hrest hfuel
  have htext : (prettyFrom depth (number (.natural n))).toList = Nat.toDigits 10 n := by
    rw [prettyFrom, Numeral.write, Nat.toString_eq_ofList_toDigits, String.toList_ofList]
  rw [htext] at hfuel ⊢
  cases hdigits : Nat.toDigits 10 n with
  | nil => exact absurd hdigits Nat.toDigits_ne_nil
  | cons c cs =>
    have hc : c.isDigit = true := Text.isDigit_of_mem_toDigits (hdigits ▸ List.mem_cons_self)
    rw [hdigits] at hfuel
    cases fuel with
    | zero => cases hfuel
    | succ fuel =>
      rw [List.cons_append, readValue_digit hc, ← List.cons_append, ← hdigits, readNumeral_natural n hrest]
      rfl

-- A list begins with a character of its own, so fuel for the whole text is more than enough for its parts.
private theorem readsBack_array {items : List Json} (hplain : ∀ item ∈ items, Plain item)
    (hread : ∀ item ∈ items, ReadsBack item) : ReadsBack (array items) := by
  intro depth fuel rest _ hfuel
  rw [prettyFrom, prettyItems_eq_map] at hfuel ⊢
  cases items with
  | nil =>
    rw [List.map_nil, toList_block_nil] at hfuel ⊢
    cases fuel with
    | zero => cases hfuel
    | succ fuel => rfl
  | cons item items =>
    rw [toList_block '[' ']' rfl rfl depth (by simp)] at hfuel ⊢
    cases fuel with
    | zero => cases hfuel
    | succ fuel =>
      simp only [List.length_cons, List.length_append] at hfuel
      obtain ⟨c, cs, hcons, hspace, hclose, -⟩ := (hplain item List.mem_cons_self).exists_cons (depth + 1)
      obtain ⟨more, hmore⟩ :
          ∃ more, joined depth ']' ((item :: items).map (prettyFrom (depth + 1))) ++ rest = c :: more := by
        cases items <;> simp [joined, hcons]
      have hitems := readItems_joined depth (List.cons_ne_nil item items) hplain hread fuel rest (by omega)
      rw [List.cons_append, List.append_assoc, hmore, readValue_array (skip_newline (depth + 1) hspace) hclose,
        ← hmore, hitems]
      rfl

private theorem readsBack_object {members : List (Option String × Json)}
    (hplain : ∀ member ∈ members, Plain member.2) (hread : ∀ member ∈ members, ReadsBack member.2) :
    ReadsBack (object members) := by
  intro depth fuel rest _ hfuel
  rw [prettyFrom, prettyMembers_eq_map] at hfuel ⊢
  cases members with
  | nil =>
    rw [List.map_nil, toList_block_nil] at hfuel ⊢
    cases fuel with
    | zero => cases hfuel
    | succ fuel => rfl
  | cons member members =>
    rw [toList_block '\x7b' '\x7d' rfl rfl depth (by simp)] at hfuel ⊢
    cases fuel with
    | zero => cases hfuel
    | succ fuel =>
      simp only [List.length_cons, List.length_append] at hfuel
      obtain ⟨more, hmore⟩ :
          ∃ more, joined depth '\x7d' ((member :: members).map (memberText (depth + 1))) ++ rest = '"' :: more := by
        cases members <;> simp [joined, toList_memberText]
      have hmembers := readMembers_joined depth (List.cons_ne_nil member members) hplain hread fuel rest (by omega)
      rw [List.cons_append, List.append_assoc, hmore,
        readValue_object (skip_newline (depth + 1) (show isSpace '"' = false by decide)) (by decide), ← hmore,
        hmembers]
      rfl

private theorem Plain.readsBack {j : Json} (h : Plain j) : ReadsBack j := by
  induction h with
  | null =>
    intro depth fuel rest _ hfuel
    have htext : (prettyFrom depth Json.null).toList = ['n', 'u', 'l', 'l'] := by rw [prettyFrom]; decide
    rw [htext] at hfuel ⊢
    cases fuel with
    | zero => cases hfuel
    | succ fuel => rfl
  | bool b =>
    intro depth fuel rest _ hfuel
    have htext : (prettyFrom depth (Json.bool b)).toList =
        if b then ['t', 'r', 'u', 'e'] else ['f', 'a', 'l', 's', 'e'] := by
      rw [prettyFrom]
      cases b <;> decide
    rw [htext] at hfuel ⊢
    cases fuel with
    | zero => cases b <;> cases hfuel
    | succ fuel => cases b <;> rfl
  | string s =>
    intro depth fuel rest _ hfuel
    rw [prettyFrom, toList_quoteText] at hfuel ⊢
    cases fuel with
    | zero => cases hfuel
    | succ fuel =>
      rw [List.cons_append, readValue, readString_literal]
      rfl
  | natural n => exact readsBack_natural n
  | array hplain ih => exact readsBack_array hplain ih
  | object hplain ih => exact readsBack_object hplain ih

end Values

/-- The text of a value is read back into that value. -/
theorem parse?_pretty {j : Json} (h : Plain j) : parse? j.pretty = some j := by
  have hread := h.readsBack 0 ((prettyFrom 0 j).length + 1) [] (by intro c hc; cases hc)
    (by rw [String.length_toList]; exact Nat.le_succ _)
  obtain ⟨c, cs, hcons, hspace, -⟩ := h.exists_cons 0
  have hskip : skip (prettyFrom 0 j).toList = (prettyFrom 0 j).toList := by
    rw [hcons]
    exact skip_cons hspace
  rw [List.append_nil] at hread
  rw [parse?, pretty, hskip, hread]
  rfl

end TieredLedger.Json
