import TieredLedger.Proofs.Json.Order
import TieredLedger.Proofs.Json.Reader
import TieredLedger.Proofs.Time.Timestamp
import TieredLedger.Search

/-! Blocks that are written as JSON and read back: keywords, references and times come back as they were, whatever order
members stand in. Only a leap second amid a minute comes back as the second after it. -/
namespace TieredLedger

variable {j : Json}

namespace Instant

private theorem ofJson?_of_reorders (t : Instant) (h : t.toJson.Reorders j) : ofJson? j = some t.settled := by
  rw [toJson, Json.text, Json.reorders_string] at h
  rw [h, ofJson?, Json.text?, Option.bind_some, Timestamp.read?_text]

/-- An instant comes back from its JSON form as the one that its text stands for. -/
theorem ofJson?_toJson (t : Instant) : ofJson? t.toJson = some t.settled := t.ofJson?_of_reorders (.refl _)

end Instant

namespace Keyword

private theorem record?_of_reorders {kind value : String}
    (h : (Json.record [("visibility", .text kind), ("value", .text value)]).Reorders j) :
    ∃ members, j = .object members ∧
      j.record? ["visibility", "value"] = some [some (.text kind), some (.text value)] := by
  obtain ⟨members, values, hj, hvalues, hrecord⟩ :=
    Json.record?_of_reorders (by simp only [List.map_cons, List.map_nil]; decide) h
  simp only [List.map_cons, List.map_nil, List.forall₂_cons_left_iff, List.forall₂_nil_left_iff, Json.text,
    Json.reorders_string, exists_and_left, ↓existsAndEq, true_and] at hvalues
  subst hvalues
  exact ⟨members, hj, hrecord⟩

private theorem ofJson?_of_reorders (k : Keyword) (h : k.toJson.Reorders j) : ofJson? j = some k := by
  cases k with
  | term value =>
    obtain ⟨members, rfl, hrecord⟩ := record?_of_reorders h
    rw [ofJson?, hrecord]
    rfl
  | token value =>
    obtain ⟨members, rfl, hrecord⟩ := record?_of_reorders h
    rw [ofJson?, hrecord]
    rfl

private theorem plain_toJson (k : Keyword) : k.toJson.Plain := by
  cases k with
  | term value | token value =>
    refine Json.Plain.record fun field hfield => ?_
    simp only [List.mem_cons, List.not_mem_nil, or_false] at hfield
    rcases hfield with rfl | rfl
    · exact .string _
    · exact .string _

end Keyword

namespace BlobRef

def settled (r : BlobRef) : BlobRef := { r with createdAt := r.createdAt.settled }

private theorem settled_eq_self_iff {r : BlobRef} : r.settled = r ↔ r.createdAt.LeapEndsMinute := by
  rw [← Instant.settled_eq_self_iff]
  exact ⟨congrArg createdAt, fun h => by rw [settled, h]⟩

private theorem ofJson?_of_reorders (r : BlobRef) (h : r.toJson.Reorders j) : ofJson? j = some r.settled := by
  obtain ⟨members, values, rfl, hvalues, hrecord⟩ :=
    Json.record?_of_reorders (by simp only [List.map_cons, List.map_nil]; decide) h
  simp only [List.map_cons, List.map_nil, List.forall₂_cons_left_iff, List.forall₂_nil_left_iff, Json.text, Json.word,
    Json.natural, Json.reorders_string, Json.reorders_number, Json.reorders_bool, exists_and_left, ↓existsAndEq,
    true_and, and_true] at hvalues hrecord
  obtain ⟨createdAt, hcreatedAt, rfl⟩ := hvalues
  have hsize : Json.word? (.number (.natural r.size.toNat)) = some r.size := Json.word?_word r.size
  rw [ofJson?, hrecord]
  simp only [Option.bind_eq_bind, Option.bind_some, List.map_cons, List.map_nil, Json.required, hsize,
    r.createdAt.ofJson?_of_reorders hcreatedAt]
  rfl

private theorem plain_toJson (r : BlobRef) : r.toJson.Plain := by
  refine Json.Plain.record fun field hfield => ?_
  simp only [List.mem_cons, List.not_mem_nil, or_false] at hfield
  rcases hfield with rfl | rfl | rfl | rfl | rfl | rfl
  · exact .string _
  · exact .string _
  · exact .natural _
  · exact .string _
  · exact .bool _
  · exact .string _

end BlobRef

namespace Block

def settled (b : Block) : Block := { b with createdAt := b.createdAt.settled, blob := b.blob.map BlobRef.settled }

/-- Wherever a block tells of a leap second, that ends a minute. -/
structure LeapsEndMinutes (b : Block) : Prop where
  createdAt : b.createdAt.LeapEndsMinute
  blob : ∀ r ∈ b.blob, r.createdAt.LeapEndsMinute

private theorem settled_eq_self_iff {b : Block} : b.settled = b ↔ b.LeapsEndMinutes := by
  have hblob : b.blob.map BlobRef.settled = b.blob ↔ ∀ r ∈ b.blob, r.createdAt.LeapEndsMinute := by
    cases b.blob with
    | none => simp
    | some r => simp [BlobRef.settled_eq_self_iff]
  constructor
  · intro h
    exact ⟨Instant.settled_eq_self_iff.1 (congrArg Block.createdAt h), hblob.1 (congrArg Block.blob h)⟩
  · intro h
    rw [settled, Instant.settled_eq_self_iff.2 h.createdAt, hblob.2 h.blob]

/-- The JSON form of a block is read back into the block that it stands for, whatever order its members stand in. -/
theorem ofJson?_of_reorders (b : Block) (h : b.toJson.Reorders j) : ofJson? j = some b.settled := by
  obtain ⟨members, values, rfl, hvalues, hrecord⟩ :=
    Json.record?_of_reorders (by simp only [List.map_cons, List.map_nil]; decide) h
  simp only [List.map_cons, List.map_nil, List.forall₂_cons_left_iff, List.forall₂_nil_left_iff, Json.text, Json.word,
    Json.natural, Json.reorders_string, Json.reorders_number, Json.reorders_bool, exists_and_left, ↓existsAndEq,
    true_and, and_true, and_assoc] at hvalues hrecord
  obtain ⟨createdAt, hcreatedAt, manual, hmanual, auto, hauto, blob, hblob, rfl⟩ := hvalues
  have hnumber : Json.word? (.number (.natural b.number.toNat)) = some b.number := Json.word?_word b.number
  have hmissing : ∀ r : BlobRef, ¬ r.toJson.Reorders .null := by
    rintro r ⟨⟩
  rw [ofJson?, hrecord]
  simp only [Option.bind_eq_bind, Option.bind_some, List.map_cons, List.map_nil, Json.required, hnumber,
    b.createdAt.ofJson?_of_reorders hcreatedAt, Json.array?_of_reorders (fun k _ _ => k.ofJson?_of_reorders) hmanual,
    Json.array?_of_reorders (fun k _ _ => k.ofJson?_of_reorders) hauto,
    Json.optional_of_reorders (fun r _ => r.ofJson?_of_reorders) hmissing hblob]
  rfl

private theorem ofJson?_toJson (b : Block) : ofJson? b.toJson = some b.settled := b.ofJson?_of_reorders (.refl _)

private theorem plain_toJson (b : Block) : b.toJson.Plain := by
  refine Json.Plain.record fun field hfield => ?_
  simp only [List.mem_cons, List.not_mem_nil, or_false] at hfield
  rcases hfield with rfl | rfl | rfl | rfl | rfl | rfl | rfl | rfl | rfl
  · exact .natural _
  · exact .string _
  · exact .string _
  · exact .string _
  · exact .string _
  · exact .bool _
  · exact .array (List.forall_mem_map.2 fun k _ => k.plain_toJson)
  · exact .array (List.forall_mem_map.2 fun k _ => k.plain_toJson)
  · exact .option BlobRef.plain_toJson _

/-- The text of a block holds the block that it stands for. -/
theorem ofJson?_parse?_pretty (b : Block) : (Json.parse? b.toJson.pretty).bind ofJson? = some b.settled := by
  rw [Json.parse?_pretty b.plain_toJson]
  exact b.ofJson?_toJson

/-- A block comes back from its JSON form exactly if its leap seconds end minutes. Then it also comes back with the
members in any order, and from the text; and a list of such blocks comes back as it was, with the same answers to whether
their hashes are right and to every search. -/
theorem blocks_come_back :
    (∀ b : Block, ofJson? b.toJson = some b ↔ b.LeapsEndMinutes) ∧
    (∀ (b : Block) j, b.LeapsEndMinutes → b.toJson.Reorders j → ofJson? j = some b) ∧
    (∀ b : Block, b.LeapsEndMinutes → (Json.parse? b.toJson.pretty).bind ofJson? = some b) ∧
    ∀ (blocks : List Block) j, (∀ b ∈ blocks, b.LeapsEndMinutes) → (Json.array (blocks.map toJson)).Reorders j →
      ∃ read, j.array? ofJson? = some read ∧
        read = blocks ∧ read.map verifyHash = blocks.map verifyHash ∧
        ∀ codec terms password limit,
          Search.byTerms codec read terms password limit = Search.byTerms codec blocks terms password limit := by
  have hone : ∀ (b : Block) j, b.LeapsEndMinutes → b.toJson.Reorders j → ofJson? j = some b := by
    intro b j hleaps h
    rw [b.ofJson?_of_reorders h, settled_eq_self_iff.2 hleaps]
  refine ⟨fun b => ?_, hone, fun b hleaps => ?_, fun blocks j hleaps h => ?_⟩
  · rw [b.ofJson?_toJson, Option.some.injEq, settled_eq_self_iff]
  · rw [b.ofJson?_parse?_pretty, settled_eq_self_iff.2 hleaps]
  · refine ⟨blocks, Json.array?_of_reorders (fun b hb j => hone b j (hleaps b hb)) h, rfl, rfl, ?_⟩
    intro codec terms password limit
    rfl

/-- A block made in a leap second long before the year zero, with a readable and a hidden keyword. -/
def early : Block where
  number := 0xFFFFFFFFFFFFFFFF
  createdAt := { seconds := -62198755201, nanos := 1000000001 }
  previousHash := "0"
  hash := ""
  data := "\"\u2028"
  encrypted := false
  manualKeywords := [.term "public"]
  autoKeywords := [.token "value"]
  blob := none

/-- The members of that block's JSON form, in their order, but with those of each keyword in the other order. -/
def earlyMembers : List (Option String × Json) := [
  (some "number", .natural 0xFFFFFFFFFFFFFFFF),
  (some "creation_timestamp", .text "-0002-12-31T23:59:60.000000001Z"),
  (some "previous_hash", .text "0"), (some "hash", .text ""), (some "data", .text "\"\u2028"),
  (some "encrypted", .bool false),
  (some "manual_keywords", .array [.object [(some "value", .text "public"), (some "visibility", .text "public")]]),
  (some "auto_keywords", .array [.object [(some "value", .text "value"), (some "visibility", .text "private")]]),
  (some "off_chain_data", .null)]

private theorem reorders_keyword (kind value : String) :
    (Json.record [("visibility", .text kind), ("value", .text value)]).Reorders
      (.object [(some "value", .text value), (some "visibility", .text kind)]) :=
  .object rfl (List.forall₂_same.2 fun j _ => .refl j) (List.Perm.swap _ _ _)

private theorem reorders_early : early.toJson.Reorders (.object earlyMembers.reverse) := by
  have htime : early.createdAt.toJson = .text "-0002-12-31T23:59:60.000000001Z" :=
    congrArg Json.text (by decide +kernel)
  have hkeyword : ∀ kind value, List.Forall₂ Json.Reorders
      [Json.record [("visibility", .text kind), ("value", .text value)]]
      [.object [(some "value", .text value), (some "visibility", .text kind)]] :=
    fun kind value => .cons (reorders_keyword kind value) .nil
  rw [toJson, htime]
  refine @Json.Reorders.object _ earlyMembers _ rfl ?_ (List.reverse_perm _)
  exact .cons (.refl _) (.cons (.refl _) (.cons (.refl _) (.cons (.refl _) (.cons (.refl _) (.cons (.refl _)
    (.cons (.array (hkeyword _ _)) (.cons (.array (hkeyword _ _)) (.cons (.refl _) .nil))))))))

/-- The early block comes back from its members in reverse, alone and in a list. -/
theorem early_block_comes_back : early.LeapsEndMinutes ∧
    ofJson? (.object earlyMembers.reverse) = some early ∧
      (Json.array [.object earlyMembers.reverse]).array? ofJson? = some [early] := by
  have hleaps : early.LeapsEndMinutes := ⟨by decide, fun _ h => by cases h⟩
  obtain ⟨-, hone, -, hall⟩ := blocks_come_back
  obtain ⟨read, hread, rfl, -⟩ := hall [early] _ (List.forall_mem_singleton.2 hleaps) (.array (.cons reorders_early .nil))
  exact ⟨hleaps, hone early _ hleaps reorders_early, hread⟩

def amidMinute : Block := { early with createdAt := { seconds := 30, nanos := 1250000000 } }

/-- A block made in a leap second amid a minute comes back as one made in the second after it. -/
theorem leap_second_amid_minute_is_lost :
    ofJson? amidMinute.toJson = some { early with createdAt := { seconds := 31, nanos := 250000000 } } ∧
      ofJson? amidMinute.toJson ≠ some amidMinute := by
  rw [ofJson?_toJson]
  exact ⟨by decide +kernel, by decide +kernel⟩

end Block

end TieredLedger
