import Cedric.Akmd.AKCompass
import Cedric.Lib.KeyedText
import Mathlib.Data.Fin.Basic

/-!
# The setting file

`LoadParameters` and `SaveParameters`. A file that was cut short while it was written is
refused, or it gives back what was to be saved; only the digits of its last number can be
fewer.
-/

namespace Cedric.Akmd

open DecimalText KeyedText

variable {k : ℕ}

def KEYNAME_SIZE : ℕ := 64

/-- `snprintf(keyName, sizeof(keyName), ...)` -/
def keyName (cs : Text) : Text := cs.take (KEYNAME_SIZE - 1)

def formKey (name : String) (i : Form k) : Text := keyName (name.toList ++ print i.val)

/-- A file as far as it has been read, and the loaders' `ret`. -/
structure Loading where
  ret : Bool
  fp : Text

/-- `val` is overwritten also where the key is not the one that was asked for. After a failure
nothing more is read. -/
def loadInt (fp lpKeyName : Text) (val : Int32) : Loading × Int32 :=
  match scanLine fp with
  | none => (⟨false, fp⟩, val)
  | some (buf, v, rest) => (⟨decide (buf = lpKeyName), rest⟩, Int32.ofInt v)

/-- `ret = ret && LoadInt(fp, keyName, &tmp)` -/
def Loading.int (l : Loading) (lpKeyName : Text) (tmp : Int32) : Loading × Int32 :=
  if l.ret then loadInt l.fp lpKeyName tmp else (l, tmp)

/-- The three numbers of `LoadInt16vec` and of `LoadInt32vec`. Nothing is stored in `tmp`
before the first of them. -/
def loadVec (fp lpKeyName : Text) (tmp : Int32) : Loading × Int32 × Int32 × Int32 :=
  let x := Loading.int ⟨true, fp⟩ (keyName (lpKeyName ++ ['.', 'x'])) tmp
  let y := x.1.int (keyName (lpKeyName ++ ['.', 'y'])) x.2
  let z := y.1.int (keyName (lpKeyName ++ ['.', 'z'])) y.2
  (z.1, x.2, y.2, z.2)

def loadInt16vec (fp lpKeyName : Text) (tmp : Int32) : Loading × Int16vec :=
  let r := loadVec fp lpKeyName tmp
  (r.1, ⟨r.2.1.toInt16, r.2.2.1.toInt16, r.2.2.2.toInt16⟩)

def loadInt32vec (fp lpKeyName : Text) (tmp : Int32) : Loading × Int32vec :=
  let r := loadVec fp lpKeyName tmp
  (r.1, ⟨r.2.1, r.2.2.1, r.2.2.2⟩)

def Loading.int16vec (l : Loading) (lpKeyName : Text) (tmp : Int32) (vec : Int16vec) :
    Loading × Int16vec :=
  if l.ret then loadInt16vec l.fp lpKeyName tmp else (l, vec)

def Loading.int32vec (l : Loading) (lpKeyName : Text) (tmp : Int32) (vec : Int32vec) :
    Loading × Int32vec :=
  if l.ret then loadInt32vec l.fp lpKeyName tmp else (l, vec)

/-- The body of the loop over the formations. `junk` is what a loader of the key finds in its
`tmp`. -/
def loadForm (junk : Text → Int32) (l : Loading × Setting k) (i : Form k) : Loading × Setting k :=
  let hdst := l.1.int (formKey "HSUC_HDST_FORM" i) 0
  let hoKey := formKey "HSUC_HO_FORM" i
  let ho := hdst.1.int16vec hoKey (junk hoKey) (l.2.hsucHo i)
  let hrefKey := formKey "HFLUCV_HREF_FORM" i
  let href := ho.1.int16vec hrefKey (junk hrefKey) (l.2.hflucvHref i)
  let hbaseKey := formKey "HSUC_HBASE_FORM" i
  let hbase := href.1.int32vec hbaseKey (junk hbaseKey) (l.2.hsucHbase i)
  (hbase.1, l.2.setEstimate i ⟨hdst.2, ho.2, href.2, hbase.2⟩)

def aoKey : Text := ['A', 'O']

/-- `LoadParameters`; no file where `fopen` fails. -/
def loadParameters (file : Option Text) (junk : Text → Int32) (fclose : Bool) (prms : Setting k) :
    Bool × Setting k :=
  match file with
  | none => (false, prms)
  | some fp =>
    let forms := (List.finRange (k + 1)).foldl (loadForm junk) (⟨true, fp⟩, prms)
    let ao := forms.1.int16vec aoKey (junk aoKey) forms.2.mAO
    (ao.1.ret && fclose, { forms.2 with mAO := ao.2 })

def saveInt (lpKeyName : Text) (val : ℤ) : Text := line lpKeyName val

def saveVec (lpKeyName : Text) (x y z : ℤ) : Text :=
  saveInt (keyName (lpKeyName ++ ['.', 'x'])) x ++
    (saveInt (keyName (lpKeyName ++ ['.', 'y'])) y ++
      saveInt (keyName (lpKeyName ++ ['.', 'z'])) z)

def saveInt16vec (lpKeyName : Text) (vec : Int16vec) : Text :=
  saveVec lpKeyName vec.x.toInt vec.y.toInt vec.z.toInt

def saveInt32vec (lpKeyName : Text) (vec : Int32vec) : Text :=
  saveVec lpKeyName vec.x.toInt vec.y.toInt vec.z.toInt

def saveForm (e : Estimate) (i : Form k) : Text :=
  saveInt (formKey "HSUC_HDST_FORM" i) e.hdst.toInt ++
    (saveInt16vec (formKey "HSUC_HO_FORM" i) e.ho ++
      (saveInt16vec (formKey "HFLUCV_HREF_FORM" i) e.href ++
        saveInt32vec (formKey "HSUC_HBASE_FORM" i) e.hbase))

def saveText (prms : Setting k) : Text :=
  (List.finRange (k + 1)).flatMap (fun i => saveForm (prms.estimate i) i) ++
    saveInt16vec aoKey prms.mAO

/-- How a save goes: whether the file can be opened, how much of the text reaches it, and what
the calls report. -/
structure Saving where
  fopen : Bool
  kept : ℕ
  fprintf : Bool
  fclose : Bool
  chmod : Bool

def saveParameters (s : Saving) (prms : Setting k) (file : Option Text) : Bool × Option Text :=
  if s.fopen then (s.fprintf && s.fclose && s.chmod, some ((saveText prms).take s.kept))
  else (false, file)

theorem key_keyName {cs : Text} (hne : cs ≠ []) (hsolid : ∀ c ∈ cs, isSpace c = false) :
    Key (keyName cs) where
  ne_nil h := (List.take_eq_nil_iff.mp h).elim (by decide) hne
  short := List.length_take_le _ _
  solid c hc := hsolid c (List.mem_of_mem_take hc)

theorem solid_of_all {cs : Text} (h : cs.all (!isSpace ·) = true) : ∀ c ∈ cs, isSpace c = false :=
  fun c hc => Bool.not_eq_true' _ ▸ List.all_eq_true.mp h c hc

theorem key_formKey {name : String} (hname : name.toList.all (!isSpace ·) = true) (i : Form k) :
    Key (formKey name i) := by
  refine key_keyName (List.append_ne_nil_of_right_ne_nil _ (print_ne_nil _)) fun c hc => ?_
  rcases List.mem_append.mp hc with hc | hc
  · exact solid_of_all hname c hc
  · exact not_isSpace_of_mem_print hc

theorem key_hdst (i : Form k) : Key (formKey "HSUC_HDST_FORM" i) :=
  key_formKey rfl i

theorem key_ho (i : Form k) : Key (formKey "HSUC_HO_FORM" i) :=
  key_formKey rfl i

theorem key_href (i : Form k) : Key (formKey "HFLUCV_HREF_FORM" i) :=
  key_formKey rfl i

theorem key_hbase (i : Form k) : Key (formKey "HSUC_HBASE_FORM" i) :=
  key_formKey rfl i

theorem key_axis {key : Text} (h : Key key) {c : Char} (hc : isSpace c = false) :
    Key (keyName (key ++ ['.', c])) := by
  refine key_keyName (List.append_ne_nil_of_left_ne_nil h.ne_nil _) fun d hd => ?_
  rcases List.mem_append.mp hd with hd | hd
  · exact h.solid d hd
  · rcases List.mem_pair.mp hd with rfl | rfl
    · rfl
    · exact hc

theorem key_aoKey : Key aoKey where
  ne_nil := List.cons_ne_nil _ _
  short := by decide
  solid := solid_of_all rfl

def intOf (x : Int32) : CInt := ⟨x.toInt, Int32.le_toInt x, Int32.toInt_lt x⟩

def intOf16 (x : Int16) : CInt :=
  ⟨x.toInt, by have hx := Int16.le_toInt x; omega, by have hx := Int16.toInt_lt x; omega⟩

theorem toInt16_ofInt (x : Int16) : (Int32.ofInt x.toInt).toInt16 = x := by
  rw [Int32.toInt16_ofInt, Int16.ofInt_toInt]

/-- The file is where `rest` was to follow, behind blanks. -/
def Torn (fp rest : Text) : Prop := ∃ blanks, Blank blanks ∧ fp <+: blanks ++ rest

theorem torn_newline {fp rest : Text} (h : fp <+: '\n' :: rest) : Torn fp rest :=
  ⟨['\n'], blank_newline, h⟩

theorem loadInt_torn {fp key rest : Text} {n : CInt} {tmp : Int32} (hkey : Key key)
    (h : Torn fp (line key n.1 ++ rest)) (hret : (loadInt fp key tmp).1.ret = true) :
    (loadInt fp key tmp).2 = Int32.ofInt n.1 ∧ Torn (loadInt fp key tmp).1.fp rest ∨
      (loadInt fp key tmp).1.fp = [] ∧ ∃ v, Cut n.1 v ∧ (loadInt fp key tmp).2 = Int32.ofInt v := by
  obtain ⟨blanks, hblanks, hfp⟩ := h
  cases hscan : scanLine fp with
  | none =>
    rw [loadInt, hscan] at hret
    exact nomatch hret
  | some r =>
    obtain ⟨buf, v, left⟩ := r
    obtain ⟨-, hv⟩ := scanLine_torn hblanks hkey hfp hscan
    simp only [loadInt, hscan]
    obtain ⟨rfl, hleft⟩ | ⟨hleft, hcut⟩ := hv
    · exact Or.inl ⟨rfl, torn_newline hleft⟩
    · exact Or.inr ⟨hleft, v, hcut, rfl⟩

theorem loadInt_nil (key : Text) (tmp : Int32) : (loadInt [] key tmp).1.ret = false := rfl

theorem Loading.int_ret {l : Loading} {key : Text} {tmp : Int32}
    (hret : (l.int key tmp).1.ret = true) :
    l.ret = true ∧ l.int key tmp = loadInt l.fp key tmp := by
  by_cases hl : l.ret = true
  · exact ⟨hl, if_pos hl⟩
  · rw [int, if_neg hl] at hret
    exact absurd hret hl

theorem Loading.int_nil {l : Loading} {key : Text} {tmp : Int32} (hfp : l.fp = [])
    (hret : (l.int key tmp).1.ret = true) : False := by
  have hload := hret
  rw [(int_ret hret).2, hfp, loadInt_nil] at hload
  exact nomatch hload

theorem loadVec_nil (key : Text) (tmp : Int32) (hret : (loadVec [] key tmp).1.ret = true) :
    False := by
  have hy := (Loading.int_ret hret).1
  have hx := (Loading.int_ret hy).1
  exact Loading.int_nil rfl hx

theorem loadVec_torn {fp key rest : Text} {x y z : CInt} {tmp : Int32} (hkey : Key key)
    (h : Torn fp (saveVec key x.1 y.1 z.1 ++ rest)) (hret : (loadVec fp key tmp).1.ret = true) :
    (loadVec fp key tmp).2.1 = Int32.ofInt x.1 ∧ (loadVec fp key tmp).2.2.1 = Int32.ofInt y.1 ∧
      ((loadVec fp key tmp).2.2.2 = Int32.ofInt z.1 ∧ Torn (loadVec fp key tmp).1.fp rest ∨
        (loadVec fp key tmp).1.fp = [] ∧
          ∃ v, Cut z.1 v ∧ (loadVec fp key tmp).2.2.2 = Int32.ofInt v) := by
  have htext : saveVec key x.1 y.1 z.1 ++ rest =
      line (keyName (key ++ ['.', 'x'])) x.1 ++ (line (keyName (key ++ ['.', 'y'])) y.1 ++
        (line (keyName (key ++ ['.', 'z'])) z.1 ++ rest)) := by
    simp only [saveVec, saveInt, List.append_assoc]
  rw [htext] at h
  simp only [loadVec] at hret ⊢
  obtain ⟨hyret, hzeq⟩ := Loading.int_ret hret
  obtain ⟨hxret, hyeq⟩ := Loading.int_ret hyret
  have hxeq := (Loading.int_ret hxret).2
  have hx := loadInt_torn (key_axis hkey rfl) h (hxeq ▸ hxret)
  rw [← hxeq] at hx
  obtain ⟨hxval, hxfp⟩ | ⟨hxfp, -⟩ := hx
  · have hy := loadInt_torn (key_axis hkey rfl) hxfp (hyeq ▸ hyret)
    rw [← hyeq] at hy
    obtain ⟨hyval, hyfp⟩ | ⟨hyfp, -⟩ := hy
    · have hz := loadInt_torn (key_axis hkey rfl) hyfp (hzeq ▸ hret)
      rw [← hzeq] at hz
      exact ⟨hxval, hyval, hz⟩
    · exact absurd hret (Loading.int_nil hyfp)
  · exact absurd hyret (Loading.int_nil hxfp)

theorem Loading.int16vec_ret {l : Loading} {key : Text} {tmp : Int32} {vec : Int16vec}
    (hret : (l.int16vec key tmp vec).1.ret = true) :
    l.ret = true ∧ l.int16vec key tmp vec = loadInt16vec l.fp key tmp := by
  by_cases hl : l.ret = true
  · exact ⟨hl, if_pos hl⟩
  · rw [int16vec, if_neg hl] at hret
    exact absurd hret hl

theorem Loading.int32vec_ret {l : Loading} {key : Text} {tmp : Int32} {vec : Int32vec}
    (hret : (l.int32vec key tmp vec).1.ret = true) :
    l.ret = true ∧ l.int32vec key tmp vec = loadInt32vec l.fp key tmp := by
  by_cases hl : l.ret = true
  · exact ⟨hl, if_pos hl⟩
  · rw [int32vec, if_neg hl] at hret
    exact absurd hret hl

def Clipped (vec' vec : Int16vec) : Prop :=
  ∃ v, Cut vec.z.toInt v ∧ vec' = { vec with z := (Int32.ofInt v).toInt16 }

theorem Loading.int16vec_torn {l : Loading} {key rest : Text} {tmp : Int32} {old vec : Int16vec}
    (hkey : Key key) (h : Torn l.fp (saveInt16vec key vec ++ rest))
    (hret : (l.int16vec key tmp old).1.ret = true) :
    (l.int16vec key tmp old).2 = vec ∧ Torn (l.int16vec key tmp old).1.fp rest ∨
      (l.int16vec key tmp old).1.fp = [] ∧ Clipped (l.int16vec key tmp old).2 vec := by
  obtain ⟨-, heq⟩ := int16vec_ret hret
  rw [heq] at hret ⊢
  obtain ⟨hx, hy, hz⟩ := loadVec_torn (x := intOf16 vec.x) (y := intOf16 vec.y)
    (z := intOf16 vec.z) hkey h hret
  have hxval : (loadInt16vec l.fp key tmp).2.x = vec.x :=
    (congrArg Int32.toInt16 hx).trans (toInt16_ofInt vec.x)
  have hyval : (loadInt16vec l.fp key tmp).2.y = vec.y :=
    (congrArg Int32.toInt16 hy).trans (toInt16_ofInt vec.y)
  obtain ⟨hzval, hfp⟩ | ⟨hfp, v, hcut, hzval⟩ := hz
  · have hz' : (loadInt16vec l.fp key tmp).2.z = vec.z :=
      (congrArg Int32.toInt16 hzval).trans (toInt16_ofInt vec.z)
    exact Or.inl ⟨(Int16vec.mk.injEq ..).mpr ⟨hxval, hyval, hz'⟩, hfp⟩
  · have hz' := congrArg Int32.toInt16 hzval
    exact Or.inr ⟨hfp, v, hcut, (Int16vec.mk.injEq ..).mpr ⟨hxval, hyval, hz'⟩⟩

theorem Loading.int32vec_torn {l : Loading} {key rest : Text} {tmp : Int32} {old vec : Int32vec}
    (hkey : Key key) (h : Torn l.fp (saveInt32vec key vec ++ rest))
    (hret : (l.int32vec key tmp old).1.ret = true) :
    (l.int32vec key tmp old).2 = vec ∧ Torn (l.int32vec key tmp old).1.fp rest ∨
      (l.int32vec key tmp old).1.fp = [] := by
  obtain ⟨-, heq⟩ := int32vec_ret hret
  rw [heq] at hret ⊢
  obtain ⟨hx, hy, hz⟩ := loadVec_torn (x := intOf vec.x) (y := intOf vec.y) (z := intOf vec.z)
    hkey h hret
  obtain ⟨hzval, hfp⟩ | ⟨hfp, -⟩ := hz
  · have hxval := hx.trans (Int32.ofInt_toInt vec.x)
    have hyval := hy.trans (Int32.ofInt_toInt vec.y)
    have hzval' := hzval.trans (Int32.ofInt_toInt vec.z)
    exact Or.inl ⟨(Int32vec.mk.injEq ..).mpr ⟨hxval, hyval, hzval'⟩, hfp⟩
  · exact Or.inr hfp

theorem Loading.int16vec_nil {l : Loading} {key : Text} {tmp : Int32} {old : Int16vec}
    (hfp : l.fp = []) (hret : (l.int16vec key tmp old).1.ret = true) : False := by
  have hload := hret
  rw [(int16vec_ret hret).2, hfp] at hload
  exact loadVec_nil key tmp hload

theorem Loading.int32vec_nil {l : Loading} {key : Text} {tmp : Int32} {old : Int32vec}
    (hfp : l.fp = []) (hret : (l.int32vec key tmp old).1.ret = true) : False := by
  have hload := hret
  rw [(int32vec_ret hret).2, hfp] at hload
  exact loadVec_nil key tmp hload

theorem loadForm_ret {junk : Text → Int32} {l : Loading × Setting k} {i : Form k}
    (hret : (loadForm junk l i).1.ret = true) : l.1.ret = true := by
  have hhref := (Loading.int32vec_ret hret).1
  have hho := (Loading.int16vec_ret hhref).1
  have hhdst := (Loading.int16vec_ret hho).1
  exact (Loading.int_ret hhdst).1

theorem loadForm_nil {junk : Text → Int32} {l : Loading × Setting k} {i : Form k}
    (hfp : l.1.fp = []) (hret : (loadForm junk l i).1.ret = true) : False := by
  have hhref := (Loading.int32vec_ret hret).1
  have hho := (Loading.int16vec_ret hhref).1
  exact Loading.int_nil hfp (Loading.int16vec_ret hho).1

theorem loadForm_torn {junk : Text → Int32} {l : Loading × Setting k} {i : Form k} {e : Estimate}
    {rest : Text} (h : Torn l.1.fp (saveForm e i ++ rest))
    (hret : (loadForm junk l i).1.ret = true) :
    (loadForm junk l i).2 = l.2.setEstimate i e ∧ Torn (loadForm junk l i).1.fp rest ∨
      (loadForm junk l i).1.fp = [] := by
  have htext : saveForm e i ++ rest = line (formKey "HSUC_HDST_FORM" i) (intOf e.hdst).1 ++
      (saveInt16vec (formKey "HSUC_HO_FORM" i) e.ho ++
        (saveInt16vec (formKey "HFLUCV_HREF_FORM" i) e.href ++
          (saveInt32vec (formKey "HSUC_HBASE_FORM" i) e.hbase ++ rest))) := by
    simp only [saveForm, saveInt, intOf, List.append_assoc]
  rw [htext] at h
  simp only [loadForm] at hret ⊢
  have hhrefret := (Loading.int32vec_ret hret).1
  have hhoret := (Loading.int16vec_ret hhrefret).1
  have hhdstret := (Loading.int16vec_ret hhoret).1
  have hhdsteq := (Loading.int_ret hhdstret).2
  have hhdst := loadInt_torn (key_hdst i) h (hhdsteq ▸ hhdstret)
  rw [← hhdsteq] at hhdst
  obtain ⟨hhdst, hfp⟩ | ⟨hfp, -⟩ := hhdst
  swap
  · exact absurd hhoret (Loading.int16vec_nil hfp)
  obtain ⟨hho, hfp⟩ | ⟨hfp, -⟩ :=
    Loading.int16vec_torn (key_ho i) hfp hhoret
  swap
  · exact absurd hhrefret (Loading.int16vec_nil hfp)
  obtain ⟨hhref, hfp⟩ | ⟨hfp, -⟩ :=
    Loading.int16vec_torn (key_href i) hfp hhrefret
  swap
  · exact absurd hret (Loading.int32vec_nil hfp)
  obtain ⟨hhbase, hfp⟩ | hfp := Loading.int32vec_torn (key_hbase i) hfp hret
  · have hhdst' := hhdst.trans (Int32.ofInt_toInt e.hdst)
    refine Or.inl ⟨?_, hfp⟩
    rw [hhdst', hho, hhref, hhbase]
  · exact Or.inr hfp

theorem foldl_loadForm_ret {junk : Text → Int32} (is : List (Form k)) {l : Loading × Setting k}
    (hret : (is.foldl (loadForm junk) l).1.ret = true) : l.1.ret = true := by
  induction is generalizing l with
  | nil => exact hret
  | cons i is ih => exact loadForm_ret (ih hret)

theorem foldl_loadForm_torn {junk : Text → Int32} {p : Setting k} {rest : Text}
    (is : List (Form k)) {l : Loading × Setting k}
    (h : Torn l.1.fp (is.flatMap (fun i => saveForm (p.estimate i) i) ++ rest))
    (hret : (is.foldl (loadForm junk) l).1.ret = true) :
    (∀ i, i ∈ is ∨ l.2.estimate i = p.estimate i →
        (is.foldl (loadForm junk) l).2.estimate i = p.estimate i) ∧
      Torn (is.foldl (loadForm junk) l).1.fp rest ∨ (is.foldl (loadForm junk) l).1.fp = [] := by
  induction is generalizing l with
  | nil => exact Or.inl ⟨fun i hi => hi.resolve_left List.not_mem_nil, h⟩
  | cons i is ih =>
    have hiret := foldl_loadForm_ret is hret
    rw [List.flatMap_cons, List.append_assoc] at h
    obtain ⟨hi, hfp⟩ | hfp := loadForm_torn h hiret
    · have hrest := ih hfp hret
      refine hrest.imp_left fun ⟨heach, hend⟩ => ⟨fun j hj => heach j ?_, hend⟩
      rw [hi, Setting.estimate_setEstimate]
      split_ifs with hji
      · rw [hji]
        exact Or.inr rfl
      · exact hj.imp_left fun hmem => (List.mem_cons.mp hmem).resolve_left hji
    · cases is with
      | nil => exact Or.inr hfp
      | cons j js => exact absurd (foldl_loadForm_ret js hret) (loadForm_nil hfp)

/-- All went well so far, and `rest` follows behind blanks. -/
def Loading.At (l : Loading) (rest : Text) : Prop :=
  l.ret = true ∧ ∃ blanks, Blank blanks ∧ l.fp = blanks ++ rest

theorem Loading.int_at {l : Loading} {key rest : Text} {n : CInt} (tmp : Int32) (hkey : Key key)
    (h : l.At (line key n.1 ++ rest)) :
    (l.int key tmp).2 = Int32.ofInt n.1 ∧ (l.int key tmp).1.At rest := by
  obtain ⟨hret, blanks, hblanks, hfp⟩ := h
  have htext : blanks ++ (line key n.1 ++ rest) =
      blanks ++ (key ++ (sign ++ (print n.1 ++ '\n' :: rest))) := by
    simp only [line_eq, List.append_assoc, List.singleton_append]
  have hend : ∀ c ∈ ('\n' :: rest).head?, c.isDigit = false := by
    rintro _ ⟨⟩
    rfl
  have hscan := scanLine_line hblanks hkey n hend
  rw [int, if_pos hret, loadInt, hfp, htext, hscan]
  exact ⟨rfl, decide_eq_true rfl, ['\n'], blank_newline, rfl⟩

theorem loadVec_at {fp key rest : Text} {x y z : CInt} (tmp : Int32) (hkey : Key key)
    (h : Loading.At ⟨true, fp⟩ (saveVec key x.1 y.1 z.1 ++ rest)) :
    (loadVec fp key tmp).2 = (Int32.ofInt x.1, Int32.ofInt y.1, Int32.ofInt z.1) ∧
      (loadVec fp key tmp).1.At rest := by
  rw [saveVec, List.append_assoc, List.append_assoc] at h
  obtain ⟨hx, h⟩ := Loading.int_at tmp (key_axis hkey rfl) h
  obtain ⟨hy, h⟩ := Loading.int_at _ (key_axis hkey rfl) h
  obtain ⟨hz, h⟩ := Loading.int_at _ (key_axis hkey rfl) h
  exact ⟨Prod.ext hx (Prod.ext hy hz), h⟩

theorem Loading.int16vec_at {l : Loading} {key rest : Text} {vec : Int16vec} (tmp : Int32)
    (old : Int16vec) (hkey : Key key) (h : l.At (saveInt16vec key vec ++ rest)) :
    (l.int16vec key tmp old).2 = vec ∧ (l.int16vec key tmp old).1.At rest := by
  obtain ⟨hvec, hrest⟩ := loadVec_at (x := intOf16 vec.x) (y := intOf16 vec.y)
    (z := intOf16 vec.z) tmp hkey ⟨rfl, h.2⟩
  rw [int16vec, if_pos h.1]
  refine ⟨?_, hrest⟩
  simp only [loadInt16vec, hvec, intOf16, toInt16_ofInt]

theorem Loading.int32vec_at {l : Loading} {key rest : Text} {vec : Int32vec} (tmp : Int32)
    (old : Int32vec) (hkey : Key key) (h : l.At (saveInt32vec key vec ++ rest)) :
    (l.int32vec key tmp old).2 = vec ∧ (l.int32vec key tmp old).1.At rest := by
  obtain ⟨hvec, hrest⟩ := loadVec_at (x := intOf vec.x) (y := intOf vec.y) (z := intOf vec.z)
    tmp hkey ⟨rfl, h.2⟩
  rw [int32vec, if_pos h.1]
  refine ⟨?_, hrest⟩
  simp only [loadInt32vec, hvec, intOf, Int32.ofInt_toInt]

theorem loadForm_at {l : Loading × Setting k} {i : Form k} {e : Estimate} {rest : Text}
    (junk : Text → Int32) (h : l.1.At (saveForm e i ++ rest)) :
    (loadForm junk l i).2 = l.2.setEstimate i e ∧ (loadForm junk l i).1.At rest := by
  rw [saveForm, List.append_assoc, List.append_assoc, List.append_assoc] at h
  obtain ⟨hhdst, h⟩ := Loading.int_at (n := intOf e.hdst) 0 (key_hdst i) h
  obtain ⟨hho, h⟩ := Loading.int16vec_at (junk (formKey "HSUC_HO_FORM" i)) (l.2.hsucHo i)
    (key_ho i) h
  obtain ⟨hhref, h⟩ := Loading.int16vec_at (junk (formKey "HFLUCV_HREF_FORM" i))
    (l.2.hflucvHref i) (key_href i) h
  obtain ⟨hhbase, h⟩ := Loading.int32vec_at (junk (formKey "HSUC_HBASE_FORM" i))
    (l.2.hsucHbase i) (key_hbase i) h
  refine ⟨?_, h⟩
  have hhdst' := hhdst.trans (Int32.ofInt_toInt e.hdst)
  simp only [loadForm]
  rw [hhdst', hho, hhref, hhbase]

theorem foldl_loadForm_at {p : Setting k} {rest : Text} (junk : Text → Int32) (is : List (Form k))
    {l : Loading × Setting k}
    (h : l.1.At (is.flatMap (fun i => saveForm (p.estimate i) i) ++ rest)) :
    (is.foldl (loadForm junk) l).1.At rest := by
  induction is generalizing l with
  | nil => exact h
  | cons i is ih =>
    rw [List.flatMap_cons, List.append_assoc] at h
    exact ih (loadForm_at junk h).2

/-- Whatever part of the text reached the file, a load of it that succeeds gives back what was to
be saved; only the last number may lack digits. -/
theorem loadParameters_torn (p prms : Setting k) (kept : ℕ) (junk : Text → Int32) (fclose : Bool)
    (hret : (loadParameters (some ((saveText p).take kept)) junk fclose prms).1 = true) :
    ∃ vec, (vec = p.mAO ∨ Clipped vec p.mAO) ∧
      (loadParameters (some ((saveText p).take kept)) junk fclose prms).2 =
        { p with mAO := vec } := by
  simp only [loadParameters] at hret ⊢
  obtain ⟨hao, -⟩ := (Bool.and_eq_true _ _).mp hret
  have hstart : Torn ((saveText p).take kept) (saveText p) :=
    ⟨[], blank_nil, List.take_prefix kept _⟩
  have hloop := foldl_loadForm_torn (List.finRange (k + 1)) (l := (⟨true, _⟩, prms)) hstart
    (Loading.int16vec_ret hao).1
  obtain ⟨heach, hfp⟩ | hfp := hloop
  · rw [← List.append_nil (saveInt16vec aoKey p.mAO)] at hfp
    have hvec := Loading.int16vec_torn key_aoKey hfp hao
    refine ⟨_, hvec.imp And.left And.right, Setting.ext_estimate (fun i => ?_) rfl⟩
    exact heach i (Or.inl (List.mem_finRange i))
  · exact absurd hao (Loading.int16vec_nil hfp)

theorem loadParameters_saveText (p prms : Setting k) (junk : Text → Int32) :
    loadParameters (some (saveText p)) junk true prms = (true, p) := by
  have hstart : Loading.At ⟨true, saveText p⟩ (saveText p) := ⟨rfl, [], blank_nil, rfl⟩
  have hloop := foldl_loadForm_at junk (List.finRange (k + 1)) (l := (⟨true, _⟩, prms)) hstart
  rw [← List.append_nil (saveInt16vec aoKey p.mAO)] at hloop
  obtain ⟨hvec, hend⟩ := Loading.int16vec_at (junk aoKey)
    ((List.finRange (k + 1)).foldl (loadForm junk) (⟨true, saveText p⟩, prms)).2.mAO key_aoKey hloop
  have hret : (loadParameters (some (saveText p)) junk true prms).1 = true :=
    (Bool.and_true _).trans hend.1
  have hwhole : (saveText p).take (saveText p).length = saveText p := List.take_length
  obtain ⟨vec, -, hload⟩ := loadParameters_torn p prms (saveText p).length junk true
    (by rw [hwhole]; exact hret)
  rw [hwhole] at hload
  have hmAO : (loadParameters (some (saveText p)) junk true prms).2.mAO = p.mAO := hvec
  rw [hload] at hmAO
  refine Prod.ext hret (hload.trans ?_)
  rw [show vec = p.mAO from hmAO]

end Cedric.Akmd
