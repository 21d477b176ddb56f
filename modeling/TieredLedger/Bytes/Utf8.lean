import TieredLedger.Bytes

/-! Reading bytes as UTF-8 text, with the place and the length of the first ill-formed sequence. -/
namespace TieredLedger.Utf8

/-- The first ill-formed sequence: where it starts, and how many bytes of it can start no character.
The count is absent when the bytes end inside a sequence that was well-formed so far. -/
structure Fault where
  index : Nat
  invalid? : Option Nat
deriving DecidableEq, Repr

def Fault.message (f : Fault) : String :=
  match f.invalid? with
  | some n => s!"invalid utf-8 sequence of {n} bytes from index {f.index}"
  | none => s!"incomplete utf-8 byte sequence from index {f.index}"

def isTail (b : UInt8) : Bool := 0x80 ≤ b && b ≤ 0xBF

def lead? (b : UInt8) : Option (UInt8 × UInt8 × Nat) :=
  if 0xC2 ≤ b && b ≤ 0xDF then some (0x80, 0xBF, 2)
  else if b == 0xE0 then some (0xA0, 0xBF, 3)
  else if b == 0xED then some (0x80, 0x9F, 3)
  else if 0xE1 ≤ b && b ≤ 0xEF then some (0x80, 0xBF, 3)
  else if b == 0xF0 then some (0x90, 0xBF, 4)
  else if 0xF1 ≤ b && b ≤ 0xF3 then some (0x80, 0xBF, 4)
  else if b == 0xF4 then some (0x80, 0x8F, 4)
  else none

/-- Counts the continuation bytes in front, at most `owed` of them, and tells whether the bytes ran out. -/
def tails : (owed : Nat) → Bytes → Nat × Bool
  | 0, _ => (0, false)
  | _ + 1, [] => (0, true)
  | owed + 1, b :: rest =>
    if isTail b then
      let (n, ended) := tails owed rest
      (n + 1, ended)
    else (0, false)

/-- Looks for the first ill-formed sequence, one byte at a time: `skip` bytes belong to a sequence already
checked, and `index` counts the bytes passed. -/
def fault? (skip index : Nat) : Bytes → Option Fault
  | [] => none
  | b :: rest =>
    match skip with
    | skip + 1 => fault? skip (index + 1) rest
    | 0 =>
      if b < 0x80 then fault? 0 (index + 1) rest
      else
        match lead? b with
        | none => some ⟨index, some 1⟩
        | some (low, high, size) =>
          match rest with
          | [] => some ⟨index, none⟩
          | second :: others =>
            if second < low || high < second then some ⟨index, some 1⟩
            else
              match tails (size - 2) others with
              | (_, true) => some ⟨index, none⟩
              | (n, false) =>
                if n = size - 2 then fault? (size - 1) (index + 1) rest
                else some ⟨index, some (n + 2)⟩

def decode (bs : Bytes) : Except Fault String :=
  match String.fromUTF8? ⟨⟨bs⟩⟩ with
  | some s => .ok s
  | none => .error ((fault? 0 0 bs).getD ⟨0, none⟩)

def text? (bs : Bytes) : Option String := (decode bs).toOption

/-- A text comes back from its bytes. -/
theorem decode_ofText (s : String) : decode (Bytes.ofText s) = .ok s := by
  have h : String.fromUTF8? ⟨⟨Bytes.ofText s⟩⟩ = some s := by
    have hs : (⟨⟨Bytes.ofText s⟩⟩ : ByteArray) = s.toByteArray := rfl
    rw [hs, String.fromUTF8?, dif_pos s.isValidUTF8]
    rfl
  rw [decode, h]

end TieredLedger.Utf8
