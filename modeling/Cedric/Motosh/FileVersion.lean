import Cedric.Motosh.HexConversion

/-!
# The version string of a firmware file

The last nine bytes of a firmware file give the address of its version string.
`stm_getFwVersionFromFile` checks neither that they are digits and a newline nor
how many bytes the conversion wrote, so a malformed trailer sends it to wherever
the converted bytes and the stack point.
-/

namespace Cedric.Motosh

open ByteStream PairCode

def hexNumber (digits : List (BitVec 8)) : ℕ :=
  digits.foldl (fun n c => 16 * n + ((hexDigit c).getD 0).toNat) 0

theorem hexDigit_range {c : BitVec 8} {x : ℤ} (h : hexDigit c = some x) : 0 ≤ x ∧ x < 16 := by
  have hall : ∀ c : BitVec 8, ∀ x ∈ hexDigit c, 0 ≤ x ∧ x < 16 := by decide +kernel
  exact hall c x h

theorem hexPair_toNat {c d b : BitVec 8} (h : hexPair c d = some b) :
    b.toNat = 16 * ((hexDigit c).getD 0).toNat + ((hexDigit d).getD 0).toNat := by
  obtain ⟨hi, hc, hmap⟩ := Option.bind_eq_some_iff.mp h
  obtain ⟨lo, hd, rfl⟩ := Option.map_eq_some_iff.mp hmap
  obtain ⟨hhi, hhi'⟩ := hexDigit_range hc
  obtain ⟨hlo, hlo'⟩ := hexDigit_range hd
  rw [hc, hd, BitVec.toNat_ofInt, Option.getD_some, Option.getD_some]
  omega

theorem foldl_digits {s bs : List (BitVec 8)} (h : Encodes hexPair s bs) (n : ℕ) :
    s.foldl (fun n c => 16 * n + ((hexDigit c).getD 0).toNat) n =
      bs.foldl (fun n b => 256 * n + b.toNat) n := by
  induction h generalizing n with
  | nil => rfl
  | @cons c d b s bs first _ ih =>
    have hbyte : 16 * (16 * n + ((hexDigit c).getD 0).toNat) + ((hexDigit d).getD 0).toNat =
        256 * n + b.toNat := by
      rw [hexPair_toNat first]
      omega
    rw [List.foldl_cons, List.foldl_cons, List.foldl_cons, hbyte, ih]

theorem encodes_of_digits {s : List (BitVec 8)} (hdigits : ∀ c ∈ s, (hexDigit c).isSome)
    (heven : s.length % 2 = 0) : ∃ bs, Encodes hexPair s bs := by
  induction s using decode.induct hexPair with
  | case1 c d s hstuck =>
    obtain ⟨hi, hc⟩ := Option.isSome_iff_exists.mp (hdigits c (by simp))
    obtain ⟨lo, hd⟩ := Option.isSome_iff_exists.mp (hdigits d (by simp))
    simp [hexPair, hc, hd] at hstuck
  | case2 c d s b hpair ih =>
    obtain ⟨bs, hbs⟩ := ih (fun e he => hdigits e (by simp [he])) (by simp at heven; omega)
    exact ⟨b :: bs, .cons hpair hbs⟩
  | case3 s hshort =>
    rcases s with - | ⟨c, - | ⟨d, s⟩⟩
    · exact ⟨[], .nil⟩
    · simp at heven
    · exact absurd rfl (hshort c d s)

def lastNine (content : List (BitVec 8)) : List (BitVec 8) := content.drop (content.length - 9)

/-- The file ends with eight digits and a newline. -/
def Trailer (content : List (BitVec 8)) : Prop :=
  9 ≤ content.length ∧ (∀ c ∈ (lastNine content).take 8, (hexDigit c).isSome) ∧
    (lastNine content).drop 8 = [0x0a]

instance (content : List (BitVec 8)) : Decidable (Trailer content) :=
  inferInstanceAs (Decidable (_ ∧ _ ∧ _))

def upToNul (text : List (BitVec 8)) : List (BitVec 8) := text.takeWhile (· ≠ 0)

theorem upToNul_nul (text : List (BitVec 8)) : upToNul (0 :: text) = [] := rfl

theorem upToNul_cons {c : BitVec 8} (hc : c ≠ 0) (text : List (BitVec 8)) :
    upToNul (c :: text) = c :: upToNul text :=
  List.takeWhile_cons_of_pos (decide_eq_true hc)

/-- The string at the front of `text` if a NUL ends it and it fits. -/
def stringAt (text : List (BitVec 8)) (maxLen : ℕ) : List (BitVec 8) :=
  if (upToNul text).length < text.length ∧ (upToNul text).length < maxLen - 1 then upToNul text
  else []

def fileVersion (content : List (BitVec 8)) (maxLen : ℕ) : List (BitVec 8) :=
  if Trailer content then
    stringAt (content.drop (hexNumber ((lastNine content).take 8) % 2 ^ 24)) maxLen
  else []

section Reads
variable {fails : ℕ → Bool}

theorem fread_eq {n : ℕ} {f : Stream (BitVec 8)} (hlen : n ≤ f.rest.length)
    (hfails : ∀ k < n, fails (f.calls + k) = false) :
    fread fails n f = (f.rest.take n, ⟨f.rest.drop n, f.calls + n, f.feof⟩) := by
  induction n generalizing f with
  | zero => simp [fread]
  | succ n ih =>
    obtain ⟨b, rest, hrest⟩ := List.exists_cons_of_length_pos (Nat.lt_of_lt_of_le n.succ_pos hlen)
    have hlater : ∀ k < n, fails (f.calls + 1 + k) = false := by
      intro k hk
      rw [Nat.add_assoc, Nat.add_comm 1 k]
      exact hfails (k + 1) (by omega)
    have hmore : n ≤ rest.length := by simpa [hrest] using hlen
    have htail := ih (f := ⟨rest, f.calls + 1, f.feof⟩) hmore hlater
    simp only [fread, fgetc_byte (hfails 0 n.succ_pos) hrest, htail, hrest, List.take_succ_cons,
      List.drop_succ_cons, Nat.add_assoc, Nat.add_comm 1]

theorem fails_of_fread {n : ℕ} {f : Stream (BitVec 8)} (h : (fread fails n f).1.length = n) :
    ∀ k < n, fails (f.calls + k) = false := by
  induction n generalizing f with
  | zero => intro k hk; omega
  | succ n ih =>
    cases hfail : fails f.calls with
    | true => simp [fread, fgetc_fails hfail] at h
    | false =>
      cases hrest : f.rest with
      | nil => simp [fread, fgetc_end hfail hrest] at h
      | cons b rest =>
        simp only [fread, fgetc_byte hfail hrest, List.length_cons, Nat.add_right_cancel_iff] at h
        have hlater := ih h
        intro k hk
        cases k with
        | zero => exact hfail
        | succ k =>
          have hk' := hlater k (by omega)
          rwa [Nat.add_assoc, Nat.add_comm 1 k] at hk'

variable {n : ℕ} {e : Bool}

theorem readVersion_length_le (fails : ℕ → Bool) (room : ℕ) (f : Stream (BitVec 8)) :
    (readVersion fails room f).1.length ≤ room := by
  induction room generalizing f with
  | zero =>
    rw [readVersion]
    split
    · exact le_rfl
    · split <;> exact le_rfl
  | succ room ih =>
    rw [readVersion]
    split
    · exact Nat.zero_le _
    · split
      · exact Nat.zero_le _
      · exact Nat.succ_le_succ (ih _)

theorem readVersion_eof {f g : Stream (BitVec 8)} (h : fgetc fails f = (none, g)) (room : ℕ) :
    readVersion fails room f = ([], none) := by
  cases room <;> simp only [readVersion, h]

theorem readVersion_nul {f g : Stream (BitVec 8)} (h : fgetc fails f = (some 0, g)) (room : ℕ) :
    readVersion fails room f = ([], some 0) := by
  cases room <;> simp only [readVersion, h, ↓reduceIte]

theorem readVersion_full {f g : Stream (BitVec 8)} {c : BitVec 8} (hc : c ≠ 0)
    (h : fgetc fails f = (some c, g)) : readVersion fails 0 f = ([], some c) := by
  rw [readVersion.eq_def]
  dsimp only
  rw [h]
  exact if_neg hc

theorem readVersion_char {f g : Stream (BitVec 8)} {c : BitVec 8} (hc : c ≠ 0)
    (h : fgetc fails f = (some c, g)) (room : ℕ) : readVersion fails (room + 1) f =
      (c :: (readVersion fails room g).1, (readVersion fails room g).2) := by
  rw [readVersion.eq_def]
  dsimp only
  rw [h]
  exact if_neg hc

theorem readVersion_sound {room : ℕ} {text : List (BitVec 8)}
    (hnul : (upToNul text).length < text.length) (hroom : (upToNul text).length ≤ room)
    (hfails : ∀ k ≤ (upToNul text).length, fails (n + k) = false) :
    readVersion fails room ⟨text, n, e⟩ = (upToNul text, some 0) := by
  induction text generalizing room n with
  | nil => exact absurd hnul (lt_irrefl _)
  | cons c text ih =>
    have hbyte := fgetc_byte (f := ⟨c :: text, n, e⟩) (hfails 0 (Nat.zero_le _)) rfl
    by_cases hc : c = 0
    · subst hc
      exact readVersion_nul hbyte room
    · rw [upToNul_cons hc] at hnul hroom hfails ⊢
      cases room with
      | zero => simp at hroom
      | succ room =>
        have hlater : ∀ k ≤ (upToNul text).length, fails (n + 1 + k) = false := by
          intro k hk
          rw [Nat.add_assoc, Nat.add_comm 1 k]
          exact hfails (k + 1) (Nat.succ_le_succ hk)
        have htail := ih (Nat.lt_of_succ_lt_succ hnul) (Nat.le_of_succ_le_succ hroom) hlater
        rw [readVersion_char hc hbyte, htail]

theorem readVersion_cases (fails : ℕ → Bool) (n : ℕ) (e : Bool) (room : ℕ)
    (text : List (BitVec 8)) :
    (readVersion fails room ⟨text, n, e⟩).2 = none ∨
    (readVersion fails room ⟨text, n, e⟩).1.length = room ∨
    ((readVersion fails room ⟨text, n, e⟩).1 = upToNul text ∧
      (upToNul text).length < text.length ∧
      ∀ k ≤ (upToNul text).length, fails (n + k) = false) := by
  induction text generalizing room n with
  | nil =>
    left
    cases hfail : fails n with
    | true => rw [readVersion_eof (fgetc_fails hfail)]
    | false => rw [readVersion_eof (fgetc_end hfail rfl)]
  | cons c text ih =>
    cases hfail : fails n with
    | true =>
      left
      rw [readVersion_eof (fgetc_fails hfail)]
    | false =>
      have hbyte := fgetc_byte (f := ⟨c :: text, n, e⟩) hfail rfl
      by_cases hc : c = 0
      · subst hc
        rw [readVersion_nul hbyte room, upToNul_nul]
        refine Or.inr (Or.inr ⟨rfl, Nat.succ_pos _, fun k hk => ?_⟩)
        rw [Nat.le_zero.mp hk]
        exact hfail
      · cases room with
        | zero =>
          right; left
          rw [readVersion_full hc hbyte]
          rfl
        | succ room =>
          rw [readVersion_char hc hbyte, upToNul_cons hc]
          simp only [List.length_cons, Nat.add_right_cancel_iff, List.cons.injEq, true_and]
          obtain hnone | hfull | ⟨hs, hnul, hreads⟩ := ih room (n := n + 1)
          · exact Or.inl hnone
          · exact Or.inr (Or.inl hfull)
          · refine Or.inr (Or.inr ⟨hs, Nat.succ_lt_succ hnul, fun k hk => ?_⟩)
            cases k with
            | zero => exact hfail
            | succ k =>
              have hk' := hreads k (Nat.le_of_succ_le_succ hk)
              rwa [Nat.add_assoc, Nat.add_comm 1 k] at hk'

end Reads

def versionStores (fails : ℕ → Bool) (maxLen : ℕ) (f : Stream (BitVec 8)) : List ℕ :=
  let r := readVersion fails maxLen f
  0 :: (List.range r.1.length ++
    if r.2 = none ∨ maxLen - 1 ≤ r.1.length then [] else [r.1.length])

theorem versionStores_lt (fails : ℕ → Bool) {maxLen : ℕ} (hmax : 0 < maxLen)
    (f : Stream (BitVec 8)) : ∀ k ∈ versionStores fails maxLen f, k < maxLen := by
  have hlen := readVersion_length_le fails maxLen f
  intro k hk
  simp only [versionStores, List.mem_cons, List.mem_append, List.mem_range] at hk
  obtain rfl | hread | hend := hk
  · exact hmax
  · exact lt_of_lt_of_le hread hlen
  · split_ifs at hend with hkept
    · exact absurd hend List.not_mem_nil
    · rw [List.mem_singleton.mp hend]
      rw [not_or, not_le] at hkept
      omega

namespace World

variable (w : World)

def expectedVersion : List (BitVec 8) :=
  match w.stmGetFwFile with
  | .error _ => []
  | .ok content => fileVersion content w.FW_VERSION_STR_MAX_LEN

/-- What stands in the file from the offset on that the conversion makes of the trailer. -/
def textAtOffset (content : List (BitVec 8)) : List (BitVec 8) :=
  content.drop (w.versionOffset ((lastNine content).take 8))

/-- No access fails up to the NUL behind the string at the front of `text`. -/
structure AllRead (text : List (BitVec 8)) : Prop where
  opens : w.versionAccess.opens = true
  seekEnd : w.versionAccess.seekEnd = true
  seekSet : w.versionAccess.seekSet = true
  reads : ∀ k ≤ 8 + (upToNul text).length, w.versionAccess.fails k = false

/-- A version is the one that the file gives; it is found if every access succeeds. -/
structure ExtractsVersion : Prop where
  only : w.stmGetFwVersionFromFile ≠ [] → w.stmGetFwVersionFromFile = w.expectedVersion
  found : w.versionAccess = ⟨true, true, true, fun _ => false⟩ →
    w.stmGetFwVersionFromFile = w.expectedVersion
  bounded : ∀ f, ∀ k ∈ versionStores w.versionAccess.fails w.FW_VERSION_STR_MAX_LEN f,
    k < w.FW_VERSION_STR_MAX_LEN

variable {w} {content : List (BitVec 8)}

theorem getFwVersion_eq (hfile : w.stmGetFwFile = .ok content) (hlen : 9 ≤ content.length)
    (hopens : w.versionAccess.opens = true) (hend : w.versionAccess.seekEnd = true)
    (hset : w.versionAccess.seekSet = true)
    (htrailer : ∀ k < 8, w.versionAccess.fails k = false) :
    w.stmGetFwVersionFromFile =
      let r := readVersion w.versionAccess.fails w.FW_VERSION_STR_MAX_LEN
        ⟨w.textAtOffset content, 8, false⟩
      if r.2 = none ∨ w.FW_VERSION_STR_MAX_LEN - 1 ≤ r.1.length then [] else r.1 := by
  have hnine : (lastNine content).length = 9 := by
    rw [lastNine, List.length_drop]
    omega
  have hread : fread w.versionAccess.fails 8 ⟨lastNine content, 0, false⟩ =
      ((lastNine content).take 8, ⟨(lastNine content).drop 8, 8, false⟩) := by
    refine fread_eq ?_ fun k hk => ?_
    · rw [hnine]
      decide
    · rw [Nat.zero_add]
      exact htrailer k hk
  have height : ((lastNine content).take 8).length = 8 := by
    rw [List.length_take, hnine]
    rfl
  rw [lastNine] at hread height
  have hshort : ¬ content.length < 9 := not_lt.mpr hlen
  simp only [stmGetFwVersionFromFile, hfile, hopens, hend, hset, hshort, hread, height,
    Bool.not_true, decide_false, Bool.or_self, Bool.false_eq_true, ↓reduceIte, ne_eq,
    not_true_eq_false, textAtOffset, lastNine]
  rfl

theorem getFwVersion_of_allRead (hfile : w.stmGetFwFile = .ok content)
    (hlen : 9 ≤ content.length) (hread : w.AllRead (w.textAtOffset content)) :
    w.stmGetFwVersionFromFile =
      stringAt (w.textAtOffset content) w.FW_VERSION_STR_MAX_LEN := by
  have htrailer : ∀ k < 8, w.versionAccess.fails k = false := fun k hk =>
    hread.reads k (by omega)
  rw [getFwVersion_eq hfile hlen hread.opens hread.seekEnd hread.seekSet htrailer]
  by_cases hstring : (upToNul (w.textAtOffset content)).length < (w.textAtOffset content).length ∧
      (upToNul (w.textAtOffset content)).length < w.FW_VERSION_STR_MAX_LEN - 1
  · have hfits : (upToNul (w.textAtOffset content)).length ≤ w.FW_VERSION_STR_MAX_LEN := by omega
    have hsound := readVersion_sound (e := false) hstring.1 hfits fun k hk =>
      hread.reads (8 + k) (by omega)
    rw [hsound, stringAt, if_pos hstring]
    refine if_neg ?_
    rw [not_or, not_le]
    exact ⟨Option.some_ne_none _, hstring.2⟩
  · rw [stringAt, if_neg hstring]
    obtain hnone | hfull | ⟨hs, hnul, -⟩ :=
      readVersion_cases w.versionAccess.fails 8 false
        w.FW_VERSION_STR_MAX_LEN (w.textAtOffset content)
    · exact if_pos (Or.inl hnone)
    · exact if_pos (Or.inr (by rw [hfull]; exact Nat.sub_le _ _))
    · refine if_pos (Or.inr ?_)
      rw [hs]
      by_contra hshort
      exact hstring ⟨hnul, not_le.mp hshort⟩

theorem allRead_of_getFwVersion (hfile : w.stmGetFwFile = .ok content)
    (h : w.stmGetFwVersionFromFile ≠ []) :
    9 ≤ content.length ∧ w.AllRead (w.textAtOffset content) := by
  have hopens : w.versionAccess.opens = true := by
    by_contra hclosed
    exact h (by simp [stmGetFwVersionFromFile, hfile, hclosed])
  have hend : w.versionAccess.seekEnd = true := by
    by_contra hfailed
    exact h (by simp [stmGetFwVersionFromFile, hfile, hfailed])
  have hlen : 9 ≤ content.length := by
    by_contra hshort
    exact h (by simp [stmGetFwVersionFromFile, hfile, not_le.mp hshort])
  have hset : w.versionAccess.seekSet = true := by
    by_contra hfailed
    exact h (by simp [stmGetFwVersionFromFile, hfile, hfailed])
  have htrailer : ∀ k < 8, w.versionAccess.fails k = false := by
    have hcount : (fread w.versionAccess.fails 8 ⟨lastNine content, 0, false⟩).1.length = 8 := by
      by_contra hpartial
      rw [lastNine] at hpartial
      exact h (by simp [stmGetFwVersionFromFile, hfile, hpartial])
    intro k hk
    have hk' := fails_of_fread hcount k hk
    rwa [Nat.zero_add] at hk'
  refine ⟨hlen, hopens, hend, hset, fun k hk => ?_⟩
  rw [getFwVersion_eq hfile hlen hopens hend hset htrailer] at h
  obtain hnone | hfull | ⟨-, -, hreads⟩ :=
    readVersion_cases w.versionAccess.fails 8 false
      w.FW_VERSION_STR_MAX_LEN (w.textAtOffset content)
  · exact absurd (if_pos (Or.inl hnone)) h
  · exact absurd (if_pos (Or.inr (by rw [hfull]; exact Nat.sub_le _ _))) h
  · by_cases hk8 : k < 8
    · exact htrailer k hk8
    · obtain ⟨j, rfl⟩ := Nat.exists_eq_add_of_le (not_lt.mp hk8)
      exact hreads j (by omega)

theorem versionOffset_of_trailer (h : Trailer content) :
    w.versionOffset ((lastNine content).take 8) =
      hexNumber ((lastNine content).take 8) % 2 ^ 24 := by
  obtain ⟨hlen, hdigits, -⟩ := h
  have height : ((lastNine content).take 8).length = 8 := by
    rw [List.length_take, lastNine, List.length_drop]
    omega
  obtain ⟨bs, hbs⟩ := encodes_of_digits hdigits (by rw [height])
  have hfour : bs.length = 4 := by
    have hwords := hbs.length
    omega
  obtain ⟨b₀, b₁, b₂, b₃, rfl⟩ : ∃ b₀ b₁ b₂ b₃, bs = [b₀, b₁, b₂, b₃] := by
    match bs, hfour with
    | [b₀, b₁, b₂, b₃], _ => exact ⟨b₀, b₁, b₂, b₃, rfl⟩
  have hconvert : stmConvertAsciiToHex ((lastNine content).take 8 ++ w.afterOffset) 8 =
      [b₀, b₁, b₂, b₃] := by
    have hlongest := stmConvertAsciiToHex_of_encodes hbs w.afterOffset
    rwa [height] at hlongest
  rw [versionOffset, hconvert, hexNumber, foldl_digits hbs]
  have h₁ := b₁.isLt
  have h₂ := b₂.isLt
  have h₃ := b₃.isLt
  simp only [List.getD_cons_succ, List.getD_cons_zero, List.foldl_cons, List.foldl_nil]
  omega

end World

/-- The version is extracted as the file says exactly if its trailer is well formed, or the
one that the conversion makes of it leads to no string that is read. -/
theorem extractsVersion_iff (w : World) (hmax : 0 < w.FW_VERSION_STR_MAX_LEN) :
    w.ExtractsVersion ↔
      ∀ content, w.stmGetFwFile = .ok content → 9 ≤ content.length → ¬ Trailer content →
        stringAt (w.textAtOffset content) w.FW_VERSION_STR_MAX_LEN ≠ [] →
        ¬ w.AllRead (w.textAtOffset content) := by
  constructor
  · intro h content hfile hlen hmalformed hstring hread
    have hresult := World.getFwVersion_of_allRead hfile hlen hread
    have hexpected : w.expectedVersion = [] := by
      simp only [World.expectedVersion, hfile, fileVersion, if_neg hmalformed]
    have honly := h.only (by rwa [hresult])
    rw [hresult, hexpected] at honly
    exact hstring honly
  · intro hcond
    have honly : w.stmGetFwVersionFromFile ≠ [] →
        w.stmGetFwVersionFromFile = w.expectedVersion := by
      intro hne
      cases hfile : w.stmGetFwFile with
      | error e => exact absurd (by rw [World.stmGetFwVersionFromFile, hfile]) hne
      | ok content =>
        obtain ⟨hlen, hread⟩ := World.allRead_of_getFwVersion hfile hne
        have hresult := World.getFwVersion_of_allRead hfile hlen hread
        rw [hresult] at hne
        by_cases htrailer : Trailer content
        · rw [hresult]
          simp only [World.expectedVersion, hfile, fileVersion, if_pos htrailer,
            World.textAtOffset, World.versionOffset_of_trailer htrailer]
        · exact absurd hread (hcond content hfile hlen htrailer hne)
    refine ⟨honly, fun haccess => ?_, versionStores_lt w.versionAccess.fails hmax⟩
    by_cases hempty : w.stmGetFwVersionFromFile = []
    swap
    · exact honly hempty
    cases hfile : w.stmGetFwFile with
    | error e => rw [hempty, World.expectedVersion, hfile]
    | ok content =>
      by_cases htrailer : Trailer content
      · have hread : w.AllRead (w.textAtOffset content) := by
          constructor <;> simp [haccess]
        rw [World.getFwVersion_of_allRead hfile htrailer.1 hread]
        simp only [World.expectedVersion, hfile, fileVersion, if_pos htrailer,
          World.textAtOffset, World.versionOffset_of_trailer htrailer]
      · rw [hempty]
        simp only [World.expectedVersion, hfile, fileVersion, if_neg htrailer]

theorem extractsVersion_versionFile : truncatedCrc.ExtractsVersion := by
  refine (extractsVersion_iff truncatedCrc (by decide)).mpr ?_
  intro content hfile _ hmalformed
  have hcontent : content = versionFile := (Except.ok.inj hfile).symm
  rw [hcontent] at hmalformed
  exact absurd (by decide) hmalformed

/-- The file of version "v" with a blank in place of the newline. -/
def blankTrailer : World :=
  { truncatedCrc with
    file _ := some [0x76, 0, 0x30, 0x38, 0x30, 0x30, 0x30, 0x30, 0x30, 0x30, 0x20] }

theorem blank_trailer_accepted : ¬ blankTrailer.ExtractsVersion := by
  intro h
  exact absurd (h.only (by decide)) (by decide)

end Cedric.Motosh
