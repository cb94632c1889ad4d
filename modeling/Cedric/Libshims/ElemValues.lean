import Cedric.Libshims.Mixer
import Mathlib.Logic.Function.Basic
import Mathlib.Tactic.Linarith

/-!
# The values of a control

The values of a control are read and written all at once. A caller sets one of them, as a number,
as a percentage or by its name. What is set is in range; what is read as a percentage is only
whether the value is the greatest.
-/

namespace Cedric.Libshims

/-- `min` and `max` are those of an integer; a `long` has 64 bits. -/
structure ValueInfo extends ElemInfo where
  count : ℕ
  min : Int64
  max : Int64
  /-- The number of items is compared with an `int`. -/
  few : items.length < 2 ^ 31

abbrev Values := ℕ → ℕ → Int64

def EINVAL : Int32 := 22

/-- `SNDRV_CTL_IOCTL_ELEM_WRITE`, which returns `write`. -/
def Values.write (v : Values) (ctl : ValueInfo) (value : ℕ → Int64) (write : Int32) :
    Values × Int32 :=
  (if write < 0 then v else Function.update v ctl.numid value, write)

def mixerCtlGetRangeMin (ctl : ValueInfo) : Int32 :=
  if ctl.type = .INTEGER then ctl.min.toInt32 else -EINVAL

def mixerCtlGetRangeMax (ctl : ValueInfo) : Int32 :=
  if ctl.type = .INTEGER then ctl.max.toInt32 else -EINVAL

/-- `SNDRV_CTL_IOCTL_ELEM_READ` returns `read`. -/
def mixerCtlGetValue (v : Values) (ctl : ValueInfo) (id : ℕ) (read : Int32) : Int32 :=
  if ctl.count ≤ id then -EINVAL
  else if read < 0 then read
  else
    match ctl.type with
    | .BOOLEAN => if v ctl.numid id = 0 then 0 else 1
    | .INTEGER | .ENUMERATED | .BYTES => (v ctl.numid id).toInt32
    | .NONE | .IEC958 | .INTEGER64 => -EINVAL

def mixerCtlSetValue (v : Values) (ctl : ValueInfo) (id : ℕ) (value read write : Int32) :
    Values × Int32 :=
  if ctl.count ≤ id then (v, -EINVAL)
  else if read < 0 then (v, read)
  else
    let set (x : Int32) := v.write ctl (Function.update (v ctl.numid) id x.toInt64) write
    match ctl.type with
    | .BOOLEAN => set (if value = 0 then 0 else 1)
    | .INTEGER =>
      let min := mixerCtlGetRangeMin ctl
      let max := mixerCtlGetRangeMax ctl
      if min < max ∧ (value < min ∨ max < value) then (v, -EINVAL) else set value
    | .ENUMERATED =>
      if value < 0 ∨ (ctl.items.length : ℤ) ≤ value.toInt then (v, -EINVAL) else set value
    | .BYTES => set (.ofInt (value.toInt % 256))
    | .NONE | .IEC958 | .INTEGER64 => (v, -EINVAL)

/-- The range and its share are an `int`, the sum is not. -/
def percentToInt (ei : ValueInfo) (percent : Int32) : Int32 :=
  let percent := if 100 < percent then 100 else if percent < 0 then 0 else percent
  let range := (ei.max - ei.min).toInt32
  (ei.min + (range * percent / 100).toInt64).toInt32

def intToPercent (ei : ValueInfo) (value : Int32) : Int32 :=
  let range := (ei.max - ei.min).toInt32
  if range = 0 then 0 else ((value.toInt64 - ei.min) / range.toInt64 * 100).toInt32

def mixerCtlGetPercent (v : Values) (ctl : ValueInfo) (id : ℕ) (read : Int32) : Int32 :=
  if ctl.type = .INTEGER then intToPercent ctl (mixerCtlGetValue v ctl id read) else -EINVAL

def mixerCtlSetPercent (v : Values) (ctl : ValueInfo) (id : ℕ) (percent read write : Int32) :
    Values × Int32 :=
  if ctl.type = .INTEGER then
    mixerCtlSetValue v ctl id (percentToInt ctl percent) read write
  else (v, -EINVAL)

/-- The values behind the first are set to zero. -/
def mixerCtlSetEnumByString (v : Values) (ctl : ValueInfo) (string : List Char)
    (write : Int32) : Values × Int32 :=
  if ctl.type = .ENUMERATED then
    match ctl.items.findIdx? (· == string) with
    | none => (v, -EINVAL)
    | some i =>
      let r := v.write ctl (Function.update (fun _ => 0) 0 (.ofNat i)) write
      (r.1, if r.2 < 0 then r.2 else 0)
  else (v, -EINVAL)

inductive Request
  | value (ctl : ValueInfo) (id : ℕ) (value read write : Int32)
  | percent (ctl : ValueInfo) (id : ℕ) (percent read write : Int32)
  | enum (ctl : ValueInfo) (string : List Char) (write : Int32)

def Request.ctl : Request → ValueInfo
  | .value ctl .. => ctl
  | .percent ctl .. => ctl
  | .enum ctl .. => ctl

def Request.serve (v : Values) : Request → Values
  | .value ctl id x read write => (mixerCtlSetValue v ctl id x read write).1
  | .percent ctl id x read write => (mixerCtlSetPercent v ctl id x read write).1
  | .enum ctl string write => (mixerCtlSetEnumByString v ctl string write).1

/-- The bounds are apart, and each is an `int`. -/
structure ValueInfo.Bounded (ctl : ValueInfo) : Prop where
  lt : ctl.min.toInt < ctl.max.toInt
  le_min : -2 ^ 31 ≤ ctl.min.toInt
  max_lt : ctl.max.toInt < 2 ^ 31

/-- Only an integer whose bounds the setter can compare has a range. -/
def ValueInfo.Admits (ctl : ValueInfo) (x : Int64) : Prop :=
  match ctl.type with
  | .BOOLEAN => x = 0 ∨ x = 1
  | .INTEGER => ctl.Bounded → ctl.min ≤ x ∧ x ≤ ctl.max
  | .ENUMERATED => 0 ≤ x.toInt ∧ x.toInt < ctl.items.length
  | .BYTES => 0 ≤ x.toInt ∧ x.toInt < 256
  | .NONE | .IEC958 | .INTEGER64 => True

def ValueInfo.InRange (ctl : ValueInfo) (v : Values) : Prop :=
  ∀ id < ctl.count, ctl.Admits (v ctl.numid id)

variable {v : Values} {ctl ctl' : ValueInfo} {id : ℕ} {value read write : Int32}

theorem toInt_toInt32 {x : Int64} (hlow : -2 ^ 31 ≤ x.toInt) (hhigh : x.toInt < 2 ^ 31) :
    x.toInt32.toInt = x.toInt := by
  rw [Int64.toInt_toInt32]
  exact Int.bmod_eq_of_le hlow hhigh

theorem ValueInfo.Bounded.toInt_range_min (h : ctl.Bounded) (htype : ctl.type = .INTEGER) :
    (mixerCtlGetRangeMin ctl).toInt = ctl.min.toInt := by
  rw [mixerCtlGetRangeMin, if_pos htype]
  exact toInt_toInt32 h.le_min (h.lt.trans h.max_lt)

theorem ValueInfo.Bounded.toInt_range_max (h : ctl.Bounded) (htype : ctl.type = .INTEGER) :
    (mixerCtlGetRangeMax ctl).toInt = ctl.max.toInt := by
  rw [mixerCtlGetRangeMax, if_pos htype]
  exact toInt_toInt32 (h.le_min.trans h.lt.le) h.max_lt

theorem inRange_write (hsame : ctl'.numid = ctl.numid → ctl' = ctl) (h : ctl'.InRange v)
    {values : ℕ → Int64} (hvalues : ∀ id < ctl.count, ctl.Admits (values id)) :
    ctl'.InRange (v.write ctl values write).1 := by
  intro id hid
  simp only [Values.write]
  split_ifs with hwrite
  · exact h id hid
  · by_cases hnumid : ctl'.numid = ctl.numid
    · obtain rfl := hsame hnumid
      rw [Function.update_self]
      exact hvalues id hid
    · rw [Function.update_of_ne hnumid]
      exact h id hid

theorem admits_update (h : ctl.InRange v) {x : Int64} (hx : ctl.Admits x) :
    ∀ j < ctl.count, ctl.Admits (Function.update (v ctl.numid) id x j) := by
  intro j hj
  by_cases hjd : j = id
  · rw [hjd, Function.update_self]
    exact hx
  · rw [Function.update_of_ne hjd]
    exact h j hj

theorem mixerCtlSetValue_cases (v : Values) (ctl : ValueInfo) (id : ℕ)
    (value read write : Int32) :
    (mixerCtlSetValue v ctl id value read write).1 = v ∨
      ∃ x, ctl.Admits x ∧ mixerCtlSetValue v ctl id value read write =
        v.write ctl (Function.update (v ctl.numid) id x) write := by
  rw [mixerCtlSetValue]
  by_cases hid : ctl.count ≤ id
  · exact .inl (congrArg Prod.fst (if_pos hid))
  by_cases hread : read < 0
  · rw [if_neg hid, if_pos hread]
    exact .inl rfl
  rw [if_neg hid, if_neg hread]
  cases htype : ctl.type with
  | BOOLEAN =>
    refine .inr ⟨_, ?_, rfl⟩
    simp only [ValueInfo.Admits, htype]
    split_ifs
    · exact .inl rfl
    · exact .inr rfl
  | INTEGER =>
    simp only
    split_ifs with hout
    · exact .inl rfl
    · refine .inr ⟨value.toInt64, ?_, rfl⟩
      simp only [ValueInfo.Admits, htype]
      intro hbounded
      have hmin := hbounded.toInt_range_min htype
      have hmax := hbounded.toInt_range_max htype
      have hlt := hbounded.lt
      simp only [Int32.lt_iff_toInt_lt, hmin, hmax] at hout
      simp only [Int64.le_iff_toInt_le, Int32.toInt_toInt64]
      omega
  | ENUMERATED =>
    simp only
    split_ifs with hout
    · exact .inl rfl
    · refine .inr ⟨value.toInt64, ?_, rfl⟩
      simp only [ValueInfo.Admits, htype, Int32.toInt_toInt64]
      obtain ⟨hlow, hhigh⟩ := not_or.mp hout
      exact ⟨Int32.le_iff_toInt_le.mp (Int32.not_lt.mp hlow), Int.not_le.mp hhigh⟩
  | BYTES =>
    refine .inr ⟨_, ?_, rfl⟩
    simp only [ValueInfo.Admits, htype, Int32.toInt_toInt64]
    rw [Int32.toInt_ofInt_of_le (by omega) (by omega)]
    omega
  | NONE => exact .inl rfl
  | IEC958 => exact .inl rfl
  | INTEGER64 => exact .inl rfl

theorem mixerCtlSetValue_inRange (hsame : ctl'.numid = ctl.numid → ctl' = ctl)
    (hctl : ctl.InRange v) (h : ctl'.InRange v) :
    ctl'.InRange (mixerCtlSetValue v ctl id value read write).1 := by
  obtain hkept | ⟨x, hx, hset⟩ := mixerCtlSetValue_cases v ctl id value read write
  · rw [hkept]
    exact h
  · rw [hset]
    exact inRange_write hsame h (admits_update hctl hx)

theorem mixerCtlSetEnumByString_inRange {string : List Char}
    (hsame : ctl'.numid = ctl.numid → ctl' = ctl) (h : ctl'.InRange v) :
    ctl'.InRange (mixerCtlSetEnumByString v ctl string write).1 := by
  rw [mixerCtlSetEnumByString]
  split_ifs with htype
  · split
    · exact h
    · next i hfind =>
      obtain ⟨hi, -⟩ := List.findIdx?_eq_some_iff_getElem.mp hfind
      have hzero : (0 : ℤ) < ctl.items.length := by omega
      have hfew := ctl.few
      refine inRange_write hsame h fun j _ => ?_
      simp only [ValueInfo.Admits, htype]
      by_cases hj : j = 0
      · rw [hj, Function.update_self, Int64.toInt_ofNat_of_lt (by omega)]
        omega
      · rw [Function.update_of_ne hj]
        exact ⟨Int.le_refl 0, hzero⟩
  · exact h

theorem Request.serve_inRange {ctls : List ValueInfo}
    (hnumids : ∀ ctl ∈ ctls, ∀ ctl' ∈ ctls, ctl'.numid = ctl.numid → ctl' = ctl) {r : Request}
    (hr : r.ctl ∈ ctls) (h : ∀ ctl ∈ ctls, ctl.InRange v) :
    ∀ ctl ∈ ctls, ctl.InRange (r.serve v) := by
  intro ctl' hctl'
  cases r with
  | value ctl id x read write =>
    exact mixerCtlSetValue_inRange (hnumids ctl hr ctl' hctl') (h ctl hr) (h ctl' hctl')
  | percent ctl id x read write =>
    simp only [Request.serve, mixerCtlSetPercent]
    split_ifs
    · exact mixerCtlSetValue_inRange (hnumids ctl hr ctl' hctl') (h ctl hr) (h ctl' hctl')
    · exact h ctl' hctl'
  | enum ctl string write =>
    exact mixerCtlSetEnumByString_inRange (hnumids ctl hr ctl' hctl') (h ctl' hctl')

theorem inRange_run {ctls : List ValueInfo}
    (hnumids : ∀ ctl ∈ ctls, ∀ ctl' ∈ ctls, ctl'.numid = ctl.numid → ctl' = ctl)
    (requests : List Request) (hrequests : ∀ r ∈ requests, r.ctl ∈ ctls)
    (h : ∀ ctl ∈ ctls, ctl.InRange v) :
    ∀ ctl ∈ ctls, ctl.InRange (requests.foldl Request.serve v) := by
  induction requests generalizing v with
  | nil => exact h
  | cons r requests ih =>
    have hr := hrequests r List.mem_cons_self
    exact ih (fun r' hr' => hrequests r' (List.mem_cons_of_mem r hr'))
      (r.serve_inRange hnumids hr h)

/-- A range whose hundredfold is an `int` too. -/
structure ValueInfo.Ranged (ctl : ValueInfo) : Prop extends ctl.Bounded where
  fits : (ctl.max.toInt - ctl.min.toInt) * 100 < 2 ^ 31

theorem ValueInfo.Ranged.toInt_range (h : ctl.Ranged) :
    (ctl.max - ctl.min).toInt32.toInt = ctl.max.toInt - ctl.min.toInt := by
  obtain ⟨⟨hlt, hmin, hmax⟩, hfits⟩ := h
  have hdiff : (ctl.max - ctl.min).toInt = ctl.max.toInt - ctl.min.toInt := by
    rw [Int64.toInt_sub]
    exact Int.bmod_eq_of_le (by omega) (by omega)
  rw [toInt_toInt32 (by omega) (by omega), hdiff]

theorem ValueInfo.Ranged.toInt_share (h : ctl.Ranged) {x : Int32} (hlow : 0 ≤ x.toInt)
    (hhigh : x.toInt ≤ 100) :
    (ctl.min + ((ctl.max - ctl.min).toInt32 * x / 100).toInt64).toInt32.toInt =
      ctl.min.toInt + (ctl.max.toInt - ctl.min.toInt) * x.toInt / 100 := by
  have hrange := h.toInt_range
  obtain ⟨⟨hlt, hmin, hmax⟩, hfits⟩ := h
  generalize (ctl.max - ctl.min).toInt32 = r at hrange
  generalize hwide : ctl.max.toInt - ctl.min.toInt = range at hrange hfits ⊢
  have hprod : 0 ≤ range * x.toInt := Int.mul_nonneg (by omega) hlow
  have hprod' : range * x.toInt ≤ range * 100 := Int.mul_le_mul_of_nonneg_left hhigh (by omega)
  have hmul : (r * x).toInt = range * x.toInt := by
    rw [Int32.toInt_mul, hrange]
    exact Int.bmod_eq_of_le (by omega) (by omega)
  have hdiv : (r * x / 100).toInt = range * x.toInt / 100 := by
    rw [Int32.toInt_div, hmul]
    change ((range * x.toInt).tdiv 100).bmod (2 ^ 32) = _
    rw [Int.tdiv_eq_ediv_of_nonneg hprod]
    exact Int.bmod_eq_of_le (by omega) (by omega)
  have hsum : (ctl.min + (r * x / 100).toInt64).toInt =
      ctl.min.toInt + range * x.toInt / 100 := by
    rw [Int64.toInt_add, Int32.toInt_toInt64, hdiv]
    exact Int.bmod_eq_of_le (by omega) (by omega)
  rw [toInt_toInt32 (by omega) (by omega), hsum]

theorem percentToInt_range (h : ctl.Ranged) (percent : Int32) :
    ctl.min.toInt ≤ (percentToInt ctl percent).toInt ∧
      (percentToInt ctl percent).toInt ≤ ctl.max.toInt ∧
      ((percentToInt ctl percent).toInt = ctl.max.toInt ↔ 100 ≤ percent) := by
  have hlt := h.lt
  have hhundred : (100 : Int32).toInt = 100 := rfl
  have hzero : (0 : Int32).toInt = 0 := rfl
  generalize hx : (if 100 < percent then 100 else if percent < 0 then 0 else percent) = x
  have hclamped : 0 ≤ x.toInt ∧ x.toInt ≤ 100 ∧ (x.toInt = 100 ↔ 100 ≤ percent) := by
    rw [Int32.le_iff_toInt_le, ← hx]
    simp only [Int32.lt_iff_toInt_lt]
    split_ifs <;> omega
  obtain ⟨hlow, hhigh, hfull⟩ := hclamped
  have hshare := h.toInt_share hlow hhigh
  have hvalue : percentToInt ctl percent =
      (ctl.min + ((ctl.max - ctl.min).toInt32 * x / 100).toInt64).toInt32 := by
    rw [← hx]
    rfl
  rw [hvalue, hshare, ← hfull]
  generalize hrange : ctl.max.toInt - ctl.min.toInt = range
  have hprod : 0 ≤ range * x.toInt := Int.mul_nonneg (by omega) hlow
  have hprod' : range * x.toInt ≤ range * 100 := Int.mul_le_mul_of_nonneg_left hhigh (by omega)
  refine ⟨by omega, by omega, fun hmax => ?_, fun heq => by rw [heq]; omega⟩
  by_contra hne
  have hless : range * x.toInt ≤ range * 99 :=
    Int.mul_le_mul_of_nonneg_left (by omega) (by omega)
  omega

theorem intToPercent_full (h : ctl.Ranged) {x : Int32} (hlow : ctl.min.toInt ≤ x.toInt)
    (hhigh : x.toInt ≤ ctl.max.toInt) :
    intToPercent ctl x = if x.toInt = ctl.max.toInt then 100 else 0 := by
  have hrange := h.toInt_range
  obtain ⟨⟨hlt, hmin, hmax⟩, hfits⟩ := h
  have hpart : (x.toInt64 - ctl.min).toInt = x.toInt - ctl.min.toInt := by
    rw [Int64.toInt_sub, Int32.toInt_toInt64]
    exact Int.bmod_eq_of_le (by omega) (by omega)
  have hne : (ctl.max - ctl.min).toInt32 ≠ 0 := by
    intro hzero
    rw [hzero] at hrange
    change (0 : ℤ) = _ at hrange
    omega
  have hquot : (x.toInt64 - ctl.min) / (ctl.max - ctl.min).toInt32.toInt64 =
      if x.toInt = ctl.max.toInt then 1 else 0 := by
    rw [← Int64.toInt_inj, Int64.toInt_div, hpart, Int32.toInt_toInt64, hrange]
    split_ifs with hx
    · rw [hx, Int.tdiv_self (by omega)]
      rfl
    · rw [Int.tdiv_eq_zero_of_lt (by omega) (by omega)]
      rfl
  rw [intToPercent]
  simp only [if_neg hne, hquot]
  split_ifs <;> rfl

theorem write_get (hwrite : 0 ≤ write) (values : ℕ → Int64) :
    (v.write ctl values write).1 ctl.numid = values := by
  simp only [Values.write, if_neg (Int32.not_lt.mpr hwrite), Function.update_self]

theorem get_integer (htype : ctl.type = .INTEGER) (hid : id < ctl.count) (hread : 0 ≤ read) :
    mixerCtlGetValue v ctl id read = (v ctl.numid id).toInt32 := by
  rw [mixerCtlGetValue, if_neg (Nat.not_le.mpr hid), if_neg (Int32.not_lt.mpr hread)]
  simp only [htype]

theorem get_percent (h : ctl.InRange v) (htype : ctl.type = .INTEGER) (hranged : ctl.Ranged)
    (hid : id < ctl.count) (hread : 0 ≤ read) :
    mixerCtlGetPercent v ctl id read = if v ctl.numid id = ctl.max then 100 else 0 := by
  have hin := h id hid
  simp only [ValueInfo.Admits, htype] at hin
  obtain ⟨hlow, hhigh⟩ := hin hranged.toBounded
  rw [Int64.le_iff_toInt_le] at hlow hhigh
  obtain ⟨-, hmin, hmax⟩ := hranged.toBounded
  have hint := toInt_toInt32 (hmin.trans hlow) (lt_of_le_of_lt hhigh hmax)
  rw [mixerCtlGetPercent, if_pos htype, get_integer htype hid hread,
    intToPercent_full hranged (by rwa [hint]) (by rwa [hint]), hint]
  simp only [Int64.toInt_inj]

theorem set_percent (htype : ctl.type = .INTEGER) (hranged : ctl.Ranged) (hid : id < ctl.count)
    (hread : 0 ≤ read) (percent : Int32) :
    mixerCtlSetPercent v ctl id percent read write =
      v.write ctl (Function.update (v ctl.numid) id (percentToInt ctl percent).toInt64)
        write := by
  obtain ⟨hlow, hhigh, -⟩ := percentToInt_range hranged percent
  rw [mixerCtlSetPercent, if_pos htype, mixerCtlSetValue, if_neg (Nat.not_le.mpr hid),
    if_neg (Int32.not_lt.mpr hread)]
  simp only [htype]
  rw [if_neg]
  rw [Int32.lt_iff_toInt_lt, Int32.lt_iff_toInt_lt, Int32.lt_iff_toInt_lt,
    hranged.toInt_range_min htype, hranged.toInt_range_max htype]
  omega

theorem set_enum_by_string (htype : ctl.type = .ENUMERATED) (hcount : 0 < ctl.count)
    (hread : 0 ≤ read) (hwrite : 0 ≤ write) (string : List Char) :
    ((mixerCtlSetEnumByString v ctl string write).2 = 0 ↔ string ∈ ctl.items) ∧
      (string ∈ ctl.items → ctl.items[(mixerCtlGetValue
        (mixerCtlSetEnumByString v ctl string write).1 ctl 0 read).toInt.toNat]? =
          some string) := by
  rw [mixerCtlSetEnumByString, if_pos htype]
  split
  · next hfind =>
    have hnot : string ∉ ctl.items := by
      intro hmem
      have := List.findIdx?_eq_none_iff.mp hfind string hmem
      simp at this
    have herror : ¬ (-EINVAL : Int32) = 0 := by decide
    exact ⟨iff_of_false herror hnot, fun hmem => absurd hmem hnot⟩
  · next i hfind =>
    obtain ⟨hi, hitem, -⟩ := List.findIdx?_eq_some_iff_getElem.mp hfind
    have hstring : ctl.items[i] = string := by simpa using hitem
    have hfew := ctl.few
    refine ⟨iff_of_true (if_neg (Int32.not_lt.mpr hwrite)) ?_, fun _ => ?_⟩
    · exact hstring ▸ List.getElem_mem hi
    · rw [mixerCtlGetValue, if_neg (Nat.not_le.mpr hcount), if_neg (Int32.not_lt.mpr hread)]
      simp only [htype, write_get hwrite, Function.update_self, Int64.toInt32_ofNat']
      rw [Int32.toInt_ofNat_of_lt (by omega), Int.toNat_natCast, List.getElem?_eq_getElem hi,
        hstring]

/-- After any calls the values are in range, what is set as a percentage is read as all of the
range or nothing, and what is set by a name is read as that name. -/
theorem values_run {ctls : List ValueInfo}
    (hnumids : ∀ ctl ∈ ctls, ∀ ctl' ∈ ctls, ctl'.numid = ctl.numid → ctl' = ctl)
    (requests : List Request) (hrequests : ∀ r ∈ requests, r.ctl ∈ ctls)
    (h : ∀ ctl ∈ ctls, ctl.InRange v) {v' : Values} (hrun : requests.foldl Request.serve v = v') :
    ∀ ctl ∈ ctls, ctl.InRange v' ∧
      ∀ read write : Int32, 0 ≤ read → 0 ≤ write →
        (ctl.type = .INTEGER → ctl.Ranged → ∀ id < ctl.count,
          mixerCtlGetPercent v' ctl id read = (if v' ctl.numid id = ctl.max then 100 else 0) ∧
          ∀ percent, (mixerCtlSetPercent v' ctl id percent read write).2 = write ∧
            mixerCtlGetPercent (mixerCtlSetPercent v' ctl id percent read write).1 ctl id
              read = if 100 ≤ percent then 100 else 0) ∧
        (ctl.type = .ENUMERATED → 0 < ctl.count → ∀ string,
          ((mixerCtlSetEnumByString v' ctl string write).2 = 0 ↔ string ∈ ctl.items) ∧
          (string ∈ ctl.items → ctl.items[(mixerCtlGetValue
            (mixerCtlSetEnumByString v' ctl string write).1 ctl 0 read).toInt.toNat]? =
              some string)) := by
  intro ctl hctl
  have hin := hrun ▸ inRange_run hnumids requests hrequests h ctl hctl
  refine ⟨hin, fun read write hread hwrite => ⟨fun htype hranged id hid => ?_, ?_⟩⟩
  · refine ⟨get_percent hin htype hranged hid hread, fun percent => ?_⟩
    have hset : mixerCtlSetPercent v' ctl id percent read write =
        v'.write ctl (Function.update (v' ctl.numid) id (percentToInt ctl percent).toInt64)
          write :=
      set_percent htype hranged hid hread percent
    have hin' : ctl.InRange (mixerCtlSetPercent v' ctl id percent read write).1 := by
      rw [mixerCtlSetPercent, if_pos htype]
      exact mixerCtlSetValue_inRange (fun _ => rfl) hin hin
    rw [get_percent hin' htype hranged hid hread, hset]
    refine ⟨rfl, ?_⟩
    rw [write_get hwrite, Function.update_self]
    simp only [← Int64.toInt_inj, Int32.toInt_toInt64, (percentToInt_range hranged percent).2.2]
  · exact fun htype hcount string => set_enum_by_string htype hcount hread hwrite string

def volume : ValueInfo := ⟨⟨1, ['V'], .INTEGER, []⟩, 2, -40, 24, by decide⟩

/-- Half of the volume is read as none of it. -/
theorem values_run_volume :
    mixerCtlGetPercent ([Request.percent volume 0 50 0 0].foldl Request.serve fun _ _ => 0)
      volume 0 0 = 0 := by
  have hvolume : ∀ ctl ∈ [volume], ctl = volume := fun ctl hctl => List.mem_singleton.mp hctl
  have hin : ∀ ctl ∈ [volume], ctl.InRange fun _ _ => 0 := by
    intro ctl hctl
    rw [hvolume ctl hctl]
    have hzero : volume.min ≤ 0 ∧ (0 : Int64) ≤ volume.max := by decide
    exact fun _ _ _ => hzero
  have hrequests : ∀ r ∈ [Request.percent volume 0 50 0 0], r.ctl ∈ [volume] := by
    intro r hr
    rw [List.mem_singleton.mp hr]
    exact List.mem_singleton_self _
  have hrun := values_run
    (fun ctl hctl ctl' hctl' _ => (hvolume ctl' hctl').trans (hvolume ctl hctl).symm)
    [.percent volume 0 50 0 0] hrequests hin rfl volume (List.mem_singleton_self _)
  have hget := ((hrun.2 0 0 (by decide) (by decide)).1 rfl
    ⟨⟨by decide, by decide, by decide⟩, by decide⟩ 0 (by decide)).1
  exact hget.trans (if_neg (by decide))

end Cedric.Libshims
