import TieredLedger.Bytes
import TieredLedger.Json.Value

/-! Writing JSON text on one line, or with a member a line and two blanks a level. -/
namespace TieredLedger.Json

/-- A character inside a string literal. Quotes, backslashes and control characters are escaped. -/
def escape (c : Char) : List Char :=
  if c = '"' then ['\\', '"']
  else if c = '\\' then ['\\', '\\']
  else if c = '\x08' then ['\\', 'b']
  else if c = '\t' then ['\\', 't']
  else if c = '\n' then ['\\', 'n']
  else if c = '\x0C' then ['\\', 'f']
  else if c = '\r' then ['\\', 'r']
  else if c.toNat < 0x20 then ['\\', 'u', '0', '0'] ++ Bytes.hexPair (UInt8.ofNat c.toNat)
  else [c]

def quote (s : String) : String := "\"" ++ String.ofList (s.toList.flatMap escape) ++ "\""

def Numeral.write : Numeral → String
  | .natural n => toString n
  | .scientific negative whole fraction exponent =>
    (if negative then "-" else "") ++ toString whole
      ++ (if fraction.isEmpty then "" else "." ++ String.join (fraction.map toString))
      ++ (if exponent ≠ 0 ∨ (!negative && fraction.isEmpty) then "e" ++ toString exponent else "")

def quoteText (s : Option String) : String :=
  match s with
  | some s => quote s
  | none => "\"\\ud800\""

def newline (depth : Nat) : String := "\n" ++ String.ofList (List.replicate (2 * depth) ' ')

/-- Items between brackets, each on a line of its own; nothing stands between brackets without items. -/
def block (opening closing : String) (depth : Nat) (items : List String) : String :=
  if items.isEmpty then opening ++ closing
  else opening ++ newline (depth + 1) ++ String.intercalate ("," ++ newline (depth + 1)) items
    ++ newline depth ++ closing

mutual

def prettyFrom (depth : Nat) : Json → String
  | null => "null"
  | bool b => if b then "true" else "false"
  | number n => n.write
  | string s => quoteText s
  | array items => block "[" "]" depth (prettyItems (depth + 1) items)
  | object members => block "\x7b" "\x7d" depth (prettyMembers (depth + 1) members)

def prettyItems (depth : Nat) : List Json → List String
  | [] => []
  | item :: rest => prettyFrom depth item :: prettyItems depth rest

def prettyMembers (depth : Nat) : List (Option String × Json) → List String
  | [] => []
  | (key, value) :: rest => (quoteText key ++ ": " ++ prettyFrom depth value) :: prettyMembers depth rest

end

def pretty (j : Json) : String := prettyFrom 0 j

end TieredLedger.Json
