import TieredLedger.KeyDerivation

/-! The check of the parameters is all that refuses a derivation. What passes it gives a key of the length asked for, if a
buffer can have that length: expansion never meets its own limit, and stretching never has to make up a salt or a number
of iterations. For a length that no buffer can have stretching stops with neither a key nor an error. -/
namespace TieredLedger.KeyDerivation

variable {p : Params} {algorithm : Algorithm} {ikm key : Bytes} {e : LedgerError}

/-- What an algorithm asks of its parameters. -/
inductive Params.Accepted (p : Params) : Algorithm → Prop
  | hkdf (hpos : 0 < p.outputLength) (hlimit : p.outputLength.toNat ≤ 255 * 32) : Accepted p .hkdf
  | pbkdf2 {salt : Bytes} {iterations : UInt32} (hpos : 0 < p.outputLength) (hsalt : p.salt = some salt)
      (hne : salt ≠ []) (hiterations : p.iterations = some iterations) (henough : 10000 ≤ iterations) :
      Accepted p .pbkdf2

/-- The keys of an algorithm. A salt and an info that are missing are empty for expansion; stretching goes by a salt
and a number of iterations that are there. -/
inductive Derived (ikm : Bytes) (p : Params) : Algorithm → Bytes → Prop
  | expanded {key : Bytes} (h : expand? (extract (p.salt.getD []) ikm) (p.info.getD []) p.outputLength.toNat = some key) :
      Derived ikm p .hkdf key
  | stretched {salt : Bytes} {iterations : UInt32} (hsalt : p.salt = some salt) (hne : salt ≠ [])
      (hiterations : p.iterations = some iterations) (henough : 10000 ≤ iterations) :
      Derived ikm p .pbkdf2 (stretch ikm salt iterations.toNat p.outputLength.toNat)

private theorem Derived.length_eq (h : Derived ikm p algorithm key) : key.length = p.outputLength.toNat := by
  cases h with
  | expanded hkey => exact length_of_expand? hkey
  | stretched => exact length_stretch ..

private theorem expand?_eq_none_iff {prk : Hmac.Key} {info : Bytes} {length : Nat} :
    expand? prk info length = none ↔ 255 * 32 < length := by
  have hlimit : maxExpansion = 255 * 32 := rfl
  unfold expand?
  split <;> simp <;> omega

/-- Expansion gives a key of every length up to its limit, whatever it starts from. -/
theorem exists_expand?_iff {prk : Hmac.Key} {info : Bytes} {length : Nat} :
    (∃ okm, expand? prk info length = some okm) ↔ length ≤ 255 * 32 := by
  rw [← Option.ne_none_iff_exists', ne_eq, expand?_eq_none_iff, Nat.not_lt]

private theorem validate_hkdf_eq_ok_iff :
    p.validate .hkdf = .ok () ↔ 0 < p.outputLength ∧ p.outputLength.toNat ≤ 255 * 32 := by
  have hlimit : maxExpansion = 255 * 32 := rfl
  unfold Params.validate
  split
  · next hzero => simp [hzero]
  · next hpos =>
    simp only [gt_iff_lt, hlimit, UInt64.pos_iff_ne_zero]
    split
    · next hlong => simp [Nat.not_le.2 hlong]
    · next hshort => simp [hpos, Nat.not_lt.1 hshort]

private theorem validate_pbkdf2_eq_ok_iff : p.validate .pbkdf2 = .ok () ↔
    0 < p.outputLength ∧ p.salt.getD [] ≠ [] ∧ 10000 ≤ p.iterations.getD 0 := by
  have hminimum : minIterations = 10000 := rfl
  unfold Params.validate
  split
  · next hzero => simp [hzero]
  · next hpos =>
    simp only [hminimum, List.isEmpty_iff, UInt64.pos_iff_ne_zero]
    split
    · next hnil => simp [hnil]
    · next hcons =>
      split
      · next hfew => simp [UInt32.not_le.2 hfew]
      · next henough => simp [hpos, hcons, UInt32.not_lt.1 henough]

/-- The check passes what an algorithm asks for. Its own stand-ins, an empty salt and no iterations, never pass. -/
theorem validate_eq_ok_iff : p.validate algorithm = .ok () ↔ p.Accepted algorithm := by
  constructor
  · intro h
    cases algorithm with
    | hkdf =>
      obtain ⟨hpos, hlimit⟩ := validate_hkdf_eq_ok_iff.1 h
      exact .hkdf hpos hlimit
    | pbkdf2 =>
      obtain ⟨hpos, hne, henough⟩ := validate_pbkdf2_eq_ok_iff.1 h
      cases hsalt : p.salt with
      | none => exact absurd (by rw [hsalt]; rfl) hne
      | some salt =>
        cases hiterations : p.iterations with
        | none =>
          rw [hiterations] at henough
          exact absurd henough (by decide)
        | some iterations =>
          rw [hsalt] at hne
          rw [hiterations] at henough
          exact .pbkdf2 hpos hsalt hne hiterations henough
  · intro h
    cases h with
    | hkdf hpos hlimit => exact validate_hkdf_eq_ok_iff.2 ⟨hpos, hlimit⟩
    | pbkdf2 hpos hsalt hne hiterations henough =>
      refine validate_pbkdf2_eq_ok_iff.2 ⟨hpos, ?_, ?_⟩
      · rwa [hsalt]
      · rwa [hiterations]

private theorem deriveInto_of_accepted (h : p.Accepted algorithm) (hfits : p.Fits) (ikm : Bytes) :
    ∃ key, deriveInto algorithm ikm p hfits = .ok key ∧ Derived ikm p algorithm key := by
  have hvalid := validate_eq_ok_iff.2 h
  unfold deriveInto
  rw [hvalid]
  cases h with
  | hkdf hpos hlimit =>
    obtain ⟨key, hkey⟩ := exists_expand?_iff.2 hlimit
    refine ⟨key, ?_, .expanded hkey⟩
    simp only [bind, Except.bind, hkey]
    rfl
  | pbkdf2 hpos hsalt hne hiterations henough =>
    refine ⟨_, ?_, .stretched hsalt hne hiterations henough⟩
    simp only [bind, Except.bind, hsalt, hiterations]
    rfl

private theorem deriveInto_of_refused (h : p.validate algorithm = .error e) (hfits : p.Fits) (ikm : Bytes) :
    deriveInto algorithm ikm p hfits = .error e := by
  unfold deriveInto
  rw [h]
  rfl

/-- A key is derived into a buffer exactly if the parameters pass their check. -/
theorem exists_deriveInto_iff (hfits : p.Fits) :
    (∃ key, deriveInto algorithm ikm p hfits = .ok key) ↔ p.validate algorithm = .ok () := by
  cases h : p.validate algorithm with
  | error e =>
    rw [deriveInto_of_refused h]
    exact iff_of_false (fun ⟨_, h⟩ => by cases h) (fun h => by cases h)
  | ok =>
    obtain ⟨key, hkey, -⟩ := deriveInto_of_accepted (validate_eq_ok_iff.1 h) hfits ikm
    exact iff_of_true ⟨key, hkey⟩ rfl

/-- The check decides, but for the length: it refuses and so does the derivation, or there is a key, or there can be no
buffer for one. -/
theorem derive_cases (algorithm : Algorithm) (ikm : Bytes) (p : Params) :
    (∃ e, p.validate algorithm = .error e ∧ derive algorithm ikm p = some (.error e)) ∨
    (∃ key, p.Accepted algorithm ∧ p.Fits ∧ derive algorithm ikm p = some (.ok key) ∧ Derived ikm p algorithm key) ∨
    p.Accepted algorithm ∧ ¬ p.Fits ∧ derive algorithm ikm p = none := by
  unfold derive
  cases h : p.validate algorithm with
  | error e =>
    refine .inl ⟨e, rfl, ?_⟩
    split
    · next hfits => rw [deriveInto_of_refused h]
    · rfl
  | ok =>
    have haccepted := validate_eq_ok_iff.1 h
    split
    · next hfits =>
      obtain ⟨key, hkey, hderived⟩ := deriveInto_of_accepted haccepted hfits ikm
      exact .inr (.inl ⟨key, haccepted, hfits, congrArg some hkey, hderived⟩)
    · next hfits => exact .inr (.inr ⟨haccepted, hfits, rfl⟩)

private theorem derived_of_derive (h : derive algorithm ikm p = some (.ok key)) : Derived ikm p algorithm key := by
  rcases derive_cases algorithm ikm p with ⟨e, -, hrefused⟩ | ⟨key', -, -, hkey, hderived⟩ | ⟨-, -, hstops⟩
  · rw [hrefused] at h
    cases h
  · rw [hkey] at h
    exact Except.ok.inj (Option.some.inj h) ▸ hderived
  · rw [hstops] at h
    cases h

/-- A derived key has the length that was asked for. -/
theorem length_of_deriveInto {hfits : p.Fits} (h : deriveInto algorithm ikm p hfits = .ok key) :
    key.length = p.outputLength.toNat := by
  have hderive : derive algorithm ikm p = some (.ok key) := by rw [derive, dif_pos hfits, h]
  exact (derived_of_derive hderive).length_eq

end TieredLedger.KeyDerivation
