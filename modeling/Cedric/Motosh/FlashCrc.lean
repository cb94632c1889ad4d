import Cedric.Motosh.Endian
import Cedric.Motosh.VersionCheck

/-!
# The CRC register on either host

`readReg` puts a request into the buffer that the driver answers in. `htons` has
the two numbers of the request in network order whatever the host, and the CRC
is taken out of the answer by arithmetic. So no step that leads to the CRC
depends on the byte order of the host, and the hub of the version check is what
either host sees.
-/

namespace Cedric.Motosh

open Endianness

/-- Of the C library: a swap unless the host has network order already. -/
def htons (host : ByteOrder) (hostshort : BitVec 16) : BitVec 16 :=
  match host with
  | .big => hostshort
  | .little => Endian.swap .uint16_t hostshort

/-- The driver behind the descriptor. `fresh` is the buffer as it is allocated; `ioctl` has the
status of the call, which is never repeated, and the buffer after it. -/
structure HubDriver where
  fd : ℤ
  maxRx : ℕ
  vmm : VmmID → BitVec 16
  fresh : ℕ → BitVec 8
  ioctl : (ℕ → BitVec 8) → ℤ × (ℕ → BitVec 8)

namespace SensorHub

def isBigEndian : Bool := false

def EndianCvt (host : ByteOrder) (T : StdInt) (val : T.Value) : T.Value :=
  if isBigEndian = Endian.isBigEndian host then val else Endian.swap T val

end SensorHub

namespace HubDriver

variable (d : HubDriver) (host : ByteOrder)

def answer (request : List (BitVec 8)) : Option (ℕ → BitVec 8) :=
  let (ret, res) := d.ioctl fun i => request.getD i (d.fresh i)
  if ret < 0 then none else some res

def request (vmmId : VmmID) (size : BitVec 16) : List (BitVec 8) :=
  let regNr := htons host (d.vmm vmmId)
  let dataSize := htons host size
  inMemory host 2 regNr ++ inMemory host 2 dataSize

def readReg (vmmId : VmmID) (size : BitVec 16) : Option (ℕ → BitVec 8) :=
  if d.fd < 0 ∨ d.maxRx < size.toNat then none else d.answer (d.request host vmmId size)

def getFlashCrc : BitVec 32 :=
  match d.readReg host .FW_CRC 4 with
  | none => 0
  | some buff =>
    let hwCrc := Endian.extract .uint32_t buff
    if !SensorHub.isBigEndian then Endian.swap .uint32_t hwCrc else hwCrc

def networkRequest (vmmId : VmmID) (size : BitVec 16) : List (BitVec 8) :=
  (bytes 2 (d.vmm vmmId)).reverse ++ (bytes 2 size).reverse

def hub : SensorHub where
  fd := d.fd
  maxRx := d.maxRx
  read vmmId size := d.answer (d.networkRequest vmmId (BitVec.ofNat 16 size))

end HubDriver

theorem inMemory_htons (host : ByteOrder) (v : BitVec 16) :
    inMemory host 2 (htons host v) = (bytes 2 v).reverse := by
  cases host with
  | big => rfl
  | little => exact Endian.bytes_swap .uint16_t v

namespace HubDriver

variable (d : HubDriver)

theorem request_eq (host : ByteOrder) (vmmId : VmmID) (size : BitVec 16) :
    d.request host vmmId size = d.networkRequest vmmId size := by
  rw [request, networkRequest, inMemory_htons, inMemory_htons]

theorem readReg_eq (host : ByteOrder) (vmmId : VmmID) (size : BitVec 16) :
    d.readReg host vmmId size = d.hub.readReg vmmId size.toNat := by
  rw [readReg, request_eq, SensorHub.readReg]
  change _ = if d.fd < 0 ∨ d.maxRx < size.toNat then none
    else d.answer (d.networkRequest vmmId (BitVec.ofNat 16 size.toNat))
  rw [BitVec.ofNat_toNat, BitVec.setWidth_eq]

theorem getFlashCrc_extract (host : ByteOrder) :
    d.getFlashCrc host =
      (d.readReg host .FW_CRC 4).elim (0 : BitVec 32) (Endian.extractLittleEndian .uint32_t) := by
  rw [getFlashCrc]
  cases d.readReg host .FW_CRC 4 with
  | none => rw [Option.elim_none]
  | some buff =>
    rw [Option.elim_some, Endian.extractLittleEndian]
    exact if_pos rfl

end HubDriver

theorem extractLittleEndian_ofNat (T : StdInt) (a : ℕ → BitVec 8) :
    Endian.extractLittleEndian T a = BitVec.ofNat T.type.bits (littleEndian (T.bytesAt a)) := by
  rw [Endian.extractLittleEndian_eq, Endian.extract_eq, Endian.bytesAt_reverse, bigEndian_reverse]

theorem endianCvt_eq_extractLittleEndian {host : ByteOrder} {T : StdInt} {a : ℕ → BitVec 8}
    {v : T.Value} (h : inMemory host T.sizeof v = T.bytesAt a) :
    SensorHub.EndianCvt host T v = Endian.extractLittleEndian T a := by
  cases host with
  | little => exact Endian.eq_of_toNat (toNat_of_little T.bits_eq h) (extractLittleEndian_ofNat T a)
  | big =>
    have hv : v = Endian.extract T a :=
      Endian.eq_of_toNat (toNat_of_big T.bits_eq h) (Endian.extract_eq T a)
    rw [hv]
    rfl

theorem toNat_crcBytes (buff : ℕ → BitVec 8) :
    (buff 3 ++ buff 2 ++ buff 1 ++ buff 0 : BitVec 32).toNat =
      littleEndian [buff 0, buff 1, buff 2, buff 3] := by
  rw [toNat_append_byte, toNat_append_byte, toNat_append_byte]
  simp only [littleEndian, Nat.mul_zero, Nat.add_zero]

theorem extract_uint32 (buff : ℕ → BitVec 8) :
    Endian.extractLittleEndian .uint32_t buff = buff 3 ++ buff 2 ++ buff 1 ++ buff 0 :=
  (Endian.eq_of_toNat (toNat_crcBytes buff) (extractLittleEndian_ofNat .uint32_t buff)).symm

namespace HubDriver

variable (d : HubDriver)

theorem getFlashCrc_eq (host : ByteOrder) : d.getFlashCrc host = d.hub.getFlashCrc := by
  have hsize : (4 : BitVec 16).toNat = 4 := rfl
  rw [getFlashCrc_extract, readReg_eq, hsize, SensorHub.getFlashCrc]
  cases d.hub.readReg .FW_CRC 4 with
  | none => rw [Option.elim_none]
  | some buff =>
    rw [Option.elim_some]
    exact extract_uint32 buff

theorem getFlashCrc_toNat (host : ByteOrder) :
    (d.getFlashCrc host).toNat = (d.readReg host .FW_CRC 4).elim 0 fun buff =>
      littleEndian [buff 0, buff 1, buff 2, buff 3] := by
  rw [getFlashCrc_extract]
  cases d.readReg host .FW_CRC 4 with
  | none =>
    rw [Option.elim_none, Option.elim_none]
    rfl
  | some buff =>
    rw [Option.elim_some, Option.elim_some, extract_uint32]
    exact toNat_crcBytes buff

end HubDriver

/-- The bytes at the pointer make up every extracted value, and the CRC is that of the bytes read,
which are the same on either host. -/
theorem endian_helpers :
    (∀ (T : StdInt) (a : ℕ → BitVec 8),
      T.type.value (Endian.extract T a) = T.type.ofNumber (bigEndian (T.bytesAt a))) ∧
    (∀ (T : StdInt) (v : T.Value), Endian.swap T (Endian.swap T v) = v ∧
      bytes T.sizeof (Endian.swap T v) = (bytes T.sizeof v).reverse) ∧
    (∀ (T : StdInt) (a : ℕ → BitVec 8),
      T.type.value (Endian.extractLittleEndian T a) =
        T.type.ofNumber (littleEndian (T.bytesAt a))) ∧
    ∀ (d : HubDriver) (host : ByteOrder),
      d.readReg host .FW_CRC 4 = d.hub.readReg .FW_CRC 4 ∧
      (d.getFlashCrc host).toNat = (d.readReg host .FW_CRC 4).elim 0 fun buff =>
        littleEndian [buff 0, buff 1, buff 2, buff 3] := by
  refine ⟨Endian.extract_value, fun T v => ⟨Endian.swap_swap T v, Endian.bytes_swap T v⟩,
    Endian.extractLittleEndian_value, fun d host => ⟨?_, d.getFlashCrc_toNat host⟩⟩
  exact d.readReg_eq host .FW_CRC 4

end Cedric.Motosh
