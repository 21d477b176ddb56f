import Mathlib.Data.List.TakeDrop
import TieredLedger.Deflate.Piece

/-! The pieces that data is split into make up the data again, and none of them is out of range. -/
namespace TieredLedger.Deflate.Piece

def InRange : Piece → Prop
  | literal _ => True
  | copy length distance => (minLength ≤ length ∧ length ≤ maxLength) ∧ 1 ≤ distance ∧ distance ≤ maxDistance

variable {data d : Array UInt8} {i j length distance : Nat} {seen : Sightings}

private theorem agreement_le (limit : Nat) : agreement data i j limit ≤ limit := by
  induction limit generalizing i j with
  | zero => exact Nat.le_refl 0
  | succ limit ih =>
    rw [agreement]
    split
    · split
      · exact Nat.succ_le_succ ih
      · exact Nat.zero_le _
    · exact Nat.zero_le _

private theorem getElem?_of_lt_agreement {limit k : Nat} (h : k < agreement data i j limit) :
    ∃ b, data[i + k]? = some b ∧ data[j + k]? = some b := by
  induction limit generalizing i j k with
  | zero => cases h
  | succ limit ih =>
    rw [agreement] at h
    split at h
    · next a b ha hb =>
      split at h
      · next hab =>
        subst hab
        cases k with
        | zero => exact ⟨a, ha, hb⟩
        | succ k =>
          obtain ⟨c, hi, hj⟩ := ih (Nat.lt_of_succ_lt_succ h)
          refine ⟨c, ?_, ?_⟩
          · rwa [Nat.add_right_comm] at hi
          · rwa [Nat.add_right_comm] at hj
      · cases h
    · cases h

private theorem toList_push_take {b : UInt8} (hd : d.toList = data.toList.take i) (hb : data[i]? = some b) :
    (d.push b).toList = data.toList.take (i + 1) := by
  rw [Array.toList_push, hd, List.take_add_one, Array.getElem?_toList, hb]
  rfl

private theorem toList_extend (hd : d.toList = data.toList.take i) (hj : j < i)
    (hagree : ∀ k < length, ∃ b, data[i + k]? = some b ∧ data[j + k]? = some b) :
    (extend d (i - j) length).toList = data.toList.take (i + length) := by
  induction length generalizing d i j with
  | zero => exact hd
  | succ length ih =>
    obtain ⟨b, hib, hjb⟩ := hagree 0 (Nat.succ_pos length)
    have hlt : i < data.size := (Array.getElem?_eq_some_iff.1 hib).1
    have hsize : d.size = i := by
      rw [← Array.length_toList, hd, List.length_take, Array.length_toList]
      omega
    have hback : lookBack d (i - j) = b := by
      have hplace : i - (i - j) = j := by omega
      rw [lookBack, hsize, if_pos (Nat.sub_le i j), hplace, ← Array.getElem?_toList, hd, List.getElem?_take_of_lt hj,
        Array.getElem?_toList]
      rw [Nat.add_zero] at hjb
      rw [hjb, Option.getD_some]
    have hrest := ih (d := d.push b) (i := i + 1) (j := j + 1) (toList_push_take hd hib) (by omega) (fun k hk => by
      obtain ⟨c, hic, hjc⟩ := hagree (k + 1) (by omega)
      refine ⟨c, ?_, ?_⟩
      · rwa [Nat.add_right_comm]
      · rwa [Nat.add_right_comm])
    rw [Nat.add_sub_add_right] at hrest
    rw [extend, hback, hrest, Nat.add_right_comm, Nat.add_assoc]

private theorem copyAt?_eq_some (h : copyAt? data seen i = some (length, distance)) :
    (copy length distance).InRange ∧ ∃ j < i, distance = i - j ∧
      ∀ k < length, ∃ b, data[i + k]? = some b ∧ data[j + k]? = some b := by
  simp only [copyAt?, Option.bind_eq_bind, Option.bind_eq_some_iff, Option.ite_none_right_eq_some, Option.some.injEq,
    Prod.mk.injEq] at h
  obtain ⟨_, _, j, _, ⟨hj, hdistance, hlength⟩, rfl, rfl⟩ := h
  refine ⟨⟨⟨hlength, agreement_le _⟩, by omega, hdistance⟩, j, hj, rfl, fun k hk => ?_⟩
  exact getElem?_of_lt_agreement hk

private theorem splitFrom_facts {found : List Piece}
    (hfound : (found.reverse.foldl append #[]).toList = data.toList.take i) (hrange : ∀ p ∈ found, p.InRange) :
    ((splitFrom data i seen found).foldl append #[]).toList = data.toList ∧
      ∀ p ∈ splitFrom data i seen found, p.InRange := by
  induction i, seen, found using splitFrom.induct data with
  | case1 i seen found hi length distance hcopy ih =>
    obtain ⟨hin, j, hj, rfl, hagree⟩ := copyAt?_eq_some hcopy
    rw [splitFrom, dif_pos hi, hcopy]
    refine ih ?_ ?_
    · rw [List.reverse_cons, List.foldl_append, List.foldl_cons, List.foldl_nil, append]
      exact toList_extend hfound hj hagree
    · exact List.forall_mem_cons.2 ⟨hin, hrange⟩
  | case2 i seen found hi hcopy ih =>
    have hstep : splitFrom data i seen found = splitFrom data (i + 1) (note data seen i 1) (literal data[i] :: found) := by
      rw [splitFrom, dif_pos hi]
      split
      · next length distance hsome => exact absurd hsome (hcopy length distance)
      · rfl
    rw [hstep]
    refine ih ?_ ?_
    · rw [List.reverse_cons, List.foldl_append, List.foldl_cons, List.foldl_nil, append]
      exact toList_push_take hfound (Array.getElem?_eq_getElem hi)
    · exact List.forall_mem_cons.2 ⟨trivial, hrange⟩
  | case3 i seen found hi =>
    rw [splitFrom, dif_neg hi]
    refine ⟨?_, fun p hp => hrange p (List.mem_reverse.1 hp)⟩
    rw [hfound, List.take_of_length_le (by simpa using hi)]

private theorem split_facts (bs : Bytes) : expand (split bs) = bs ∧ ∀ p ∈ split bs, p.InRange := by
  rw [expand, split]
  exact splitFrom_facts (i := 0) rfl (by simp)

/-- The pieces of some data make up that data. -/
theorem expand_split (bs : Bytes) : expand (split bs) = bs := (split_facts bs).1

/-- The pieces that data are split into fit in a stream. -/
theorem inRange_of_mem_split {bs : Bytes} {p : Piece} (h : p ∈ split bs) : p.InRange := (split_facts bs).2 p h

end TieredLedger.Deflate.Piece
