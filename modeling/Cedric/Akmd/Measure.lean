import Cedric.Akmd.AKCompass

/-!
# Measuring

`Init_Measure` and `GetMagneticVector`. The SmartCompass library comes as an archive; it is a
parameter here. Beside its result a measurement shows what the estimation of the offset answered,
where one was made.
-/

namespace Cedric.Akmd

/-- What `AKSC_DecompS3` puts out. -/
structure Decomp where
  ret : Int16
  hdata : Hdata
  hbase : Int32vec
  hn : Int16
  ave : Int16vec
  derr : Int16
  hofl : Int16
  cb : Int16

/-- What `AKSC_TransByHbase` puts out. -/
structure Translation where
  ho : Int16vec
  ho32 : Int32vec
  overflow : Int16

/-- What `AKSC_HDOEProcessS3` puts out. -/
structure Processed (H : Type) where
  hdSucc : Int16
  hdoev : H
  ho : Int16vec
  hdst : HDST

/-- The library, with the certificate that it is given. -/
structure AKSC (H : Type) where
  initDecomp : Hdata → Hdata
  initHDOEProcPrmsS3 : H → Int16vec → HDST → H
  initHFlucCheck : HFLUCVAR → Int16vec → Int16 → HFLUCVAR
  decompS3 : List Int16 → Int16 → Int16vec → Option (List UInt8) → Hdata → Int32vec → Decomp
  setHDOELevel : H → Int16vec → HDST → H
  transByHbase : Int32vec → Int32vec → Int16vec → Int32vec → Translation
  hFlucCheck : HFLUCVAR → Int16vec → Int16 × HFLUCVAR
  hdoeProcessS3 : H → Hdata → Int16 → Int16vec → HDST → Processed H
  vNorm : Int16vec → Int16vec → Int16vec → Int16 × Int16vec

def AKRET_PROC_SUCCEED : UInt16 := 0x00
def AKRET_FORMATION_CHANGED : UInt16 := 0x01
def AKRET_DATA_READERROR : UInt16 := 0x02
def AKRET_DATA_OVERFLOW : UInt16 := 0x04
def AKRET_OFFSET_OVERFLOW : UInt16 := 0x08
def AKRET_HBASE_CHANGED : UInt16 := 0x10
def AKRET_HFLUC_OCCURRED : UInt16 := 0x20
def AKRET_VNORM_ERROR : UInt16 := 0x40
def AKRET_PROC_FAIL : UInt16 := 0x80

def CSPEC_CNTSUSPEND_SNG : Int16 := 8
def CSPEC_HNAVE : Int16 := 8
def AKSC_HSENSE_TARGET : Int16 := 833
def HFLUCV_TH : Int16 := 2500
def AKSC_CERTIFICATION_DENIED : Int16 := -32768

def convertCoordinate (pat : PATNO) (vec : Int16vec) : Int16vec :=
  match pat with
  | .invalid | .pat1 => vec
  | .pat2 => ⟨vec.y, -vec.x, vec.z⟩
  | .pat3 => ⟨-vec.x, -vec.y, vec.z⟩
  | .pat4 => ⟨-vec.y, vec.x, vec.z⟩
  | .pat5 => ⟨-vec.x, vec.y, -vec.z⟩
  | .pat6 => ⟨vec.y, vec.x, -vec.z⟩
  | .pat7 => ⟨vec.x, -vec.y, -vec.z⟩
  | .pat8 => ⟨-vec.y, -vec.x, -vec.z⟩

/-- What an estimation answered, and the values that stood after it. -/
structure Estimation (k : ℕ) where
  hdSucc : Int16
  form : Form k
  estimate : Estimate

structure Measured (k : ℕ) (H : Type) where
  ret : UInt16
  prms : AKSCPRMS k H
  estimation : Option (Estimation k)

variable {k : ℕ} {H : Type} (lib : AKSC H)

/-- `InitAKSCPRMS`, with what the fuse ROM, the PDC file and the options give. -/
def initAKSCPRMS (hdoev : H) (asa : Int16vec) (pdcptr : Option (List UInt8)) (layout : PATNO) :
    AKSCPRMS k H where
  hsucHdst := fun _ => 0
  hsucHo := fun _ => 0
  hflucvHref := fun _ => 0
  hsucHbase := fun _ => 0
  mAO := 0
  mHo := 0
  mHo32 := 0
  mHs := ⟨AKSC_HSENSE_TARGET, AKSC_HSENSE_TARGET, AKSC_HSENSE_TARGET⟩
  mHflucv := ⟨0, 0⟩
  mHdata := fun _ => 0
  mHn := 0
  mHvec := 0
  mAsa := asa
  mPdcptr := pdcptr
  mHdoev := hdoev
  mHdst := HDST.unsolved
  mForm := Form.default k
  mCntSuspend := 0
  mHnave := CSPEC_HNAVE
  mHlayout := layout
  mCallcnt := 0
  mHbase := 0

def restore (p : AKSCPRMS k H) : AKSCPRMS k H :=
  { p with
    mHo := p.hsucHo p.mForm
    mHo32 := (p.hsucHo p.mForm).toInt32vec
    mHdst := p.hsucHdst p.mForm
    mHbase := p.hsucHbase p.mForm
    mHdata := lib.initDecomp p.mHdata
    mHdoev := lib.initHDOEProcPrmsS3 p.mHdoev (p.hsucHo p.mForm) (p.hsucHdst p.mForm)
    mHflucv := lib.initHFlucCheck p.mHflucv (p.hflucvHref p.mForm) HFLUCV_TH }

def initMeasure (p : AKSCPRMS k H) (checkForm : Form k) : AKSCPRMS k H :=
  { restore lib { p with mForm := checkForm } with mCntSuspend := 0, mCallcnt := 0 }

def countSuspend (p : AKSCPRMS k H) : AKSCPRMS k H :=
  if 0 < p.mCntSuspend then
    if p.mCntSuspend - 1 = 0 then restore lib { p with mCntSuspend := p.mCntSuspend - 1 }
    else { p with mCntSuspend := p.mCntSuspend - 1 }
  else p

def unsolve (p : AKSCPRMS k H) : AKSCPRMS k H :=
  { p with
    mHdoev := lib.setHDOELevel p.mHdoev p.mHo HDST.unsolved
    mHdst := HDST.unsolved }

def unsolveUnlessSuspended (p : AKSCPRMS k H) : AKSCPRMS k H :=
  if p.mCntSuspend ≤ 0 then unsolve lib p else p

def normalize (ave : Int16vec) (p : AKSCPRMS k H) : UInt16 × AKSCPRMS k H :=
  let v := lib.vNorm ave p.mHo p.mHs
  if v.1 = 0 then (AKRET_VNORM_ERROR, p)
  else (AKRET_PROC_SUCCEED, { p with mHvec := convertCoordinate p.mHlayout v.2 })

def keepEstimate (p : AKSCPRMS k H) : AKSCPRMS k H :=
  { p with
    toSetting := p.setEstimate p.mForm ⟨p.mHdst, p.mHo, p.mHflucv.href, p.mHbase⟩
    mHo32 := p.mHo.toInt32vec }

def estimateOffset (ave : Int16vec) (p : AKSCPRMS k H) (hDecimator : Int16) : Measured k H :=
  let h := lib.hdoeProcessS3 p.mHdoev p.mHdata p.mHn p.mHo p.mHdst
  let p := { p with mHdoev := h.hdoev, mHo := h.ho, mHdst := h.hdst }
  let estimation := some ⟨h.hdSucc, p.mForm, ⟨p.mHdst, p.mHo, p.mHflucv.href, p.mHbase⟩⟩
  if h.hdSucc = AKSC_CERTIFICATION_DENIED then ⟨AKRET_PROC_FAIL, p, estimation⟩
  else
    let p := if 0 < h.hdSucc then keepEstimate p else p
    let r := normalize lib ave { p with mCallcnt := hDecimator }
    ⟨r.1, r.2, estimation⟩

/-- The part of `GetMagneticVector` behind the checks of the data. -/
def trackOffset (ave : Int16vec) (p : AKSCPRMS k H) (hDecimator : Int16) : Measured k H :=
  if p.mCntSuspend ≤ 0 then
    let f := lib.hFlucCheck p.mHflucv (p.mHdata 0)
    let p := { p with mHflucv := f.2 }
    if f.1 = 1 then ⟨AKRET_HFLUC_OCCURRED, unsolve lib p, none⟩
    else
      let p := { p with mCallcnt := p.mCallcnt - 1 }
      if p.mCallcnt ≤ 0 then estimateOffset lib ave p hDecimator
      else
        let r := normalize lib ave p
        ⟨r.1, r.2, none⟩
  else
    let r := normalize lib ave p
    ⟨r.1, r.2, none⟩

/-- The offset is translated from the base that the call found, which `countSuspend` may have
replaced. -/
def translate (preHbase : Int32vec) (p : AKSCPRMS k H) : Measured k H :=
  let t := lib.transByHbase preHbase p.mHbase p.mHo p.mHo32
  let p := { p with
    mHo := t.ho
    mHo32 := t.ho32
    mHflucv := lib.initHFlucCheck p.mHflucv 0 HFLUCV_TH }
  ⟨(if t.overflow = 1 then AKRET_OFFSET_OVERFLOW else 0) ||| AKRET_HBASE_CHANGED,
    unsolveUnlessSuspended lib p, none⟩

structure Call (k : ℕ) where
  bData : List Int16
  curForm : Form k
  hDecimator : Int16

def decompose (p : AKSCPRMS k H) (bData : List Int16) : Decomp :=
  lib.decompS3 bData p.mHnave p.mAsa p.mPdcptr p.mHdata p.mHbase

def getMagneticVector (prms : AKSCPRMS k H) (c : Call k) : Measured k H :=
  let p := countSuspend lib prms
  let d := decompose lib p c.bData
  let p := { p with mHdata := d.hdata, mHbase := d.hbase, mHn := d.hn }
  if d.ret = 0 then ⟨AKRET_PROC_FAIL, p, none⟩
  else if p.mForm ≠ c.curForm then
    ⟨AKRET_FORMATION_CHANGED,
      { p with mForm := c.curForm, mCntSuspend := CSPEC_CNTSUSPEND_SNG, mCallcnt := 0 }, none⟩
  else if d.derr = 1 then ⟨AKRET_DATA_READERROR, p, none⟩
  else if d.hofl = 1 then ⟨AKRET_DATA_OVERFLOW, unsolveUnlessSuspended lib p, none⟩
  else if d.cb = 1 then translate lib prms.mHbase p
  else trackOffset lib d.ave p c.hDecimator

/-- The library of a device at rest: every block of data is a good one, and every estimation
confirms the offset. -/
def restingLibrary : AKSC Unit where
  initDecomp hdata := hdata
  initHDOEProcPrmsS3 _ _ _ := ()
  initHFlucCheck _ href th := ⟨href, th⟩
  decompS3 _ _ _ _ hdata hbase := ⟨1, hdata, hbase, 1, 0, 0, 0, 0⟩
  setHDOELevel _ _ _ := ()
  transByHbase _ _ ho ho32 := ⟨ho, ho32, 0⟩
  hFlucCheck hflucv _ := (0, hflucv)
  hdoeProcessS3 _ _ _ ho _ := ⟨1, (), ho, 1⟩
  vNorm v _ _ := (1, v)

end Cedric.Akmd
