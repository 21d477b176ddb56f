import TieredLedger.Compression
import TieredLedger.Proofs.Bytes.Base64
import TieredLedger.Proofs.Deflate.Stream
import TieredLedger.Proofs.Text.Words

/-! A compressed payload gives the payload back, and what is stored of it is plain text, whatever wrote the stream. -/
namespace TieredLedger.Compression

private theorem decompress_encode {stream payload : Bytes} (h : Deflate.decompress stream = .ok payload) :
    decompress (Base64.encode .standard stream) = .ok payload := by
  rw [decompress, Base64.decode_encode Base64.Alphabet.proper_standard]
  dsimp only
  rw [h]

/-- A payload comes back from its compressed form, whatever encoder wrote the stream. -/
theorem decompress_compress {deflate : Bytes → Bytes} (hdeflate : Deflate.IsEncoder deflate) (bs : Bytes) :
    decompress (compress deflate bs).bytes = .ok bs :=
  decompress_encode (hdeflate bs)

/-- What is stored for a payload: a word of padded base64 text that gives the payload back. -/
structure StandsFor (text payload : Bytes) : Prop where
  groups : ∃ count, 0 < count ∧ text.length = 4 * count
  padded : Base64.IsPadded text
  word : ∃ s : String, Bytes.ofText s = text ∧ Text.IsWord s
  restored : decompress text = .ok payload

private theorem isWord_asText {text : Bytes} (hgiven : text ≠ []) (h : ∀ b ∈ text, 32 < b.toNat ∧ b.toNat < 127) :
    Text.IsWord (Base64.asText text) := by
  have hvisible : ∀ n < 127, 32 < n → Text.isBlank (Char.ofNat n) = false := by decide
  rw [Text.isWord_iff, Base64.asText, String.toList_ofList, List.forall_mem_map]
  exact ⟨by simpa using hgiven, fun b hb => hvisible b.toNat (h b hb).2 (h b hb).1⟩

/-- The text of a stream stands for what the stream is inflated to. No stream is empty, so neither is its text. -/
theorem standsFor_encode {stream payload : Bytes} (h : Deflate.decompress stream = .ok payload) :
    StandsFor (Base64.encode .standard stream) payload := by
  have hpadded := Base64.isPadded_encode stream
  have hgiven : Base64.encode .standard stream ≠ [] := by
    intro hnil
    have hdecode := Base64.decode_encode Base64.Alphabet.proper_standard stream
    rw [hnil] at hdecode
    cases hdecode
    cases h
  have hpos := List.length_pos_iff.2 hgiven
  have hwhole := hpadded.whole
  refine ⟨⟨(Base64.encode .standard stream).length / 4, by omega, by omega⟩, hpadded, ?_, decompress_encode h⟩
  have hvisible := hpadded.visible
  exact ⟨_, Base64.ofText_asText fun b hb => Nat.lt_succ_of_lt (hvisible b hb).2, isWord_asText hgiven hvisible⟩

/-- Whatever encoder writes the streams, every payload is compressed to plain text that gives it back, and so would be
the text of any other stream that is inflated to the payload. -/
theorem compressed_text_restores_payload (payload : Bytes) :
    (∀ deflate, Deflate.IsEncoder deflate →
      (compress deflate payload).compressed = true ∧ StandsFor (compress deflate payload).bytes payload) ∧
      ∀ stream, Deflate.decompress stream = .ok payload → StandsFor (Base64.encode .standard stream) payload :=
  ⟨fun _ hdeflate => ⟨rfl, standsFor_encode (hdeflate payload)⟩, fun _ => standsFor_encode⟩

/-- The letter a, in a block with the fixed codebook and in one that is stored as it is. -/
theorem stored_block_restores_payload :
    (Deflate.IsEncoder Deflate.compress ∧ StandsFor (compress Deflate.compress [97]).bytes [97]) ∧
      Deflate.decompress [1, 1, 0, 254, 255, 97] = .ok [97] ∧ StandsFor (Bytes.ofText "AQEA/v9h") [97] := by
  have hinflated : Deflate.decompress [1, 1, 0, 254, 255, 97] = .ok [97] := by decide +kernel
  have htext : Base64.encode .standard [1, 1, 0, 254, 255, 97] = Bytes.ofText "AQEA/v9h" := by decide +kernel
  obtain ⟨hcoded, hstored⟩ := compressed_text_restores_payload [97]
  exact ⟨⟨Deflate.isEncoder_compress, (hcoded _ Deflate.isEncoder_compress).2⟩, hinflated, htext ▸ hstored _ hinflated⟩

end TieredLedger.Compression
