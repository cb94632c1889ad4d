import Cedric.Motosh.VersionCheck

/-!
# Downloading the firmware

`stm_getpacket` stops at the end-of-file indicator alone, so a read that fails
puts the byte of `EOF` into the packet. A cell says where a byte of a packet comes
from. While no read fails the packets are the file cut into pieces, the last one
filled up to whole words (`send_sound`); a packet after a failed read holds the
byte of that `EOF` (`send_unsound`).
-/

namespace Cedric.Motosh

open ByteStream

/-- A byte of a packet: read from the file, what `EOF` becomes in a char, or filled in. -/
inductive Cell
  | read (b : BitVec 8)
  | eof
  | fill
  deriving DecidableEq

structure Driver where
  bootloaderMode : ℤ
  massErase : ℤ
  setStartAddr : ℤ
  write : ℕ → ℤ

def Driver.Ready (d : Driver) : Prop :=
  0 ≤ d.bootloaderMode ∧ 0 ≤ d.massErase ∧ 0 ≤ d.setStartAddr

/-- The packets handed to `write`, the result and the stream at the end. -/
structure Download where
  packets : List (List Cell)
  ret : ℤ
  stream : Stream (BitVec 8)

namespace Module

variable (m : Module)

def value : Cell → BitVec 8
  | .read b => b
  | .eof => BitVec.ofInt 8 (-1)
  | .fill => m.FLASH_FILL

def readPacket (fails : ℕ → Bool) : ℕ → Stream (BitVec 8) → List Cell × Stream (BitVec 8)
  | 0, f => ([], f)
  | room + 1, f =>
    let r := fgetc fails f
    if r.2.feof then ([], r.2)
    else
      let c := match r.1 with
        | some b => Cell.read b
        | none => Cell.eof
      let t := readPacket fails room r.2
      (c :: t.1, t.2)

def padPacket : ℕ → ℕ → List Cell
  | 0, _ => []
  | room + 1, len => if len % 8 > 0 then .fill :: padPacket room (len + 1) else []

def stmGetpacket (fails : ℕ → Bool) (f : Stream (BitVec 8)) : List Cell × Stream (BitVec 8) :=
  let r := readPacket fails m.STM_MAX_PACKET_LENGTH f
  (r.1 ++ padPacket (m.STM_MAX_PACKET_LENGTH - r.1.length) r.1.length, r.2)

/-- The packet loop from packet `j` on, `ret` being the last result; `none` is still running. -/
def sendPackets (d : Driver) (fails : ℕ → Bool) : ℕ → ℕ → ℤ → Stream (BitVec 8) →
    Option Download
  | 0, _, _, _ => none
  | fuel + 1, j, ret, f =>
    let packet := m.stmGetpacket fails f
    if packet.1.length = 0 then some ⟨[], ret, packet.2⟩
    else if d.write j < 0 then some ⟨[packet.1], d.write j, packet.2⟩
    else
      (sendPackets d fails fuel (j + 1) (d.write j) packet.2).map fun r =>
        { r with packets := packet.1 :: r.packets }

def stmDownloadFirmware (d : Driver) (fails : ℕ → Bool) (content : List (BitVec 8))
    (fuel : ℕ) : Option Download :=
  if d.bootloaderMode < 0 then some ⟨[], d.bootloaderMode, opened content⟩
  else if d.massErase < 0 then some ⟨[], d.massErase, opened content⟩
  else if d.setStartAddr < 0 then some ⟨[], d.setStartAddr, opened content⟩
  else m.sendPackets d fails fuel 0 d.setStartAddr (opened content)

def padding (len : ℕ) : ℕ := (8 - len % 8) % 8

theorem padding_lt (len : ℕ) : padding len < 8 := Nat.mod_lt _ (by decide)

theorem padPacket_eq (room len : ℕ) (h : 8 ∣ room + len) :
    padPacket room len = List.replicate (padding len) .fill := by
  induction room generalizing len with
  | zero =>
    have hlen : padding len = 0 := by
      rw [padding]
      omega
    rw [hlen]
    rfl
  | succ room ih =>
    rw [padPacket]
    split_ifs with hpad
    · have hlen : padding len = padding (len + 1) + 1 := by
        rw [padding, padding]
        omega
      rw [ih (len + 1) (by omega), hlen, List.replicate_succ]
    · have hlen : padding len = 0 := by
        rw [padding]
        omega
      rw [hlen]
      rfl

variable {m} {fails : ℕ → Bool}

/-- The reads of a packet: it takes `room` bytes, or meets the end of the file. -/
def PacketSound (fails : ℕ → Bool) (room : ℕ) (f : Stream (BitVec 8)) : Prop :=
  ∀ i < room, i ≤ f.rest.length → fails (f.calls + i) = false

theorem packetSound_cons {room n : ℕ} {b : BitVec 8} {rest : List (BitVec 8)} {e : Bool} :
    PacketSound fails (room + 1) ⟨b :: rest, n, e⟩ ↔
      fails n = false ∧ PacketSound fails room ⟨rest, n + 1, e⟩ := by
  constructor
  · intro h
    refine ⟨h 0 (Nat.succ_pos _) (Nat.zero_le _), fun i hi hle => ?_⟩
    have hstep := h (i + 1) (by omega) (by simpa using hle)
    simpa [Nat.add_assoc, Nat.add_comm 1] using hstep
  · intro h i hi hle
    cases i with
    | zero => exact h.1
    | succ i =>
      have hstep := h.2 i (by omega) (by simpa using hle)
      simpa [Nat.add_assoc, Nat.add_comm 1] using hstep

theorem readPacket_sound {room : ℕ} {f : Stream (BitVec 8)} (hfeof : f.feof = false)
    (h : PacketSound fails room f) :
    readPacket fails room f = ((f.rest.take room).map .read,
      ⟨f.rest.drop room, f.calls + min room (f.rest.length + 1), decide (f.rest.length < room)⟩) := by
  obtain ⟨rest, n, e⟩ := f
  subst hfeof
  induction room generalizing rest n with
  | zero => simp [readPacket]
  | succ room ih =>
    cases rest with
    | nil =>
      have hn : fails n = false := h 0 (Nat.succ_pos _) (Nat.zero_le _)
      simp only [readPacket, fgetc_end (f := ⟨[], n, false⟩) hn rfl]
      simp
    | cons b rest =>
      obtain ⟨hn, hrest⟩ := packetSound_cons.mp h
      simp only [readPacket, fgetc_byte (f := ⟨b :: rest, n, false⟩) hn rfl]
      rw [ih rest (n + 1) hrest]
      simp only [Bool.false_eq_true, ↓reduceIte, List.take_succ_cons, List.map_cons,
        List.drop_succ_cons, List.length_cons, Nat.add_lt_add_iff_right]
      rw [Nat.add_assoc, Nat.add_comm 1, Nat.add_min_add_right]

theorem readPacket_unsound {room : ℕ} {f : Stream (BitVec 8)} (hfeof : f.feof = false)
    (h : ¬ PacketSound fails room f) : .eof ∈ (readPacket fails room f).1 := by
  obtain ⟨rest, n, e⟩ := f
  subst hfeof
  induction room generalizing rest n with
  | zero => exact absurd (fun i hi => absurd hi (Nat.not_lt_zero i)) h
  | succ room ih =>
    cases hn : fails n with
    | true =>
      simp only [readPacket, fgetc_fails (f := ⟨rest, n, false⟩) hn]
      exact List.mem_cons_self
    | false =>
      cases rest with
      | nil =>
        refine absurd (fun i hi hle => ?_) h
        rw [Nat.le_zero.mp hle]
        exact hn
      | cons b rest =>
        simp only [readPacket, fgetc_byte (f := ⟨b :: rest, n, false⟩) hn rfl]
        exact List.mem_cons_of_mem _
          (ih rest (n + 1) fun hrest => h (packetSound_cons.mpr ⟨hn, hrest⟩))

theorem readPacket_feof {room : ℕ} {f : Stream (BitVec 8)} (hfeof : f.feof = true)
    (hrest : f.rest = []) :
    (readPacket fails room f).1 = [] ∧ (readPacket fails room f).2.rest = [] := by
  obtain ⟨rest, n, e⟩ := f
  subst hfeof hrest
  cases room with
  | zero => exact ⟨rfl, rfl⟩
  | succ room =>
    cases hn : fails n with
    | true =>
      simp only [readPacket, fgetc_fails (f := ⟨[], n, true⟩) hn, ↓reduceIte, and_self]
    | false =>
      simp only [readPacket, fgetc_end (f := ⟨[], n, true⟩) hn rfl, ↓reduceIte, and_self]

theorem stmGetpacket_sound {f : Stream (BitVec 8)} (hfeof : f.feof = false)
    (h : PacketSound fails m.STM_MAX_PACKET_LENGTH f) :
    m.stmGetpacket fails f =
      ((f.rest.take m.STM_MAX_PACKET_LENGTH).map .read ++
        List.replicate (padding (min m.STM_MAX_PACKET_LENGTH f.rest.length)) .fill,
      ⟨f.rest.drop m.STM_MAX_PACKET_LENGTH,
        f.calls + min m.STM_MAX_PACKET_LENGTH (f.rest.length + 1),
        decide (f.rest.length < m.STM_MAX_PACKET_LENGTH)⟩) := by
  have hle : min m.STM_MAX_PACKET_LENGTH f.rest.length ≤ m.STM_MAX_PACKET_LENGTH :=
    Nat.min_le_left _ _
  have hwords := m.packet_words
  rw [stmGetpacket, readPacket_sound hfeof h]
  dsimp only
  rw [List.length_map, List.length_take, padPacket_eq _ _ (by omega)]

theorem stmGetpacket_full {f : Stream (BitVec 8)} (hfeof : f.feof = false)
    (h : PacketSound fails m.STM_MAX_PACKET_LENGTH f)
    (hlen : m.STM_MAX_PACKET_LENGTH ≤ f.rest.length) :
    m.stmGetpacket fails f = ((f.rest.take m.STM_MAX_PACKET_LENGTH).map .read,
      ⟨f.rest.drop m.STM_MAX_PACKET_LENGTH, f.calls + m.STM_MAX_PACKET_LENGTH, false⟩) := by
  have hpad : padding m.STM_MAX_PACKET_LENGTH = 0 := by
    rw [padding, Nat.mod_eq_zero_of_dvd m.packet_words]
  rw [stmGetpacket_sound hfeof h, Nat.min_eq_left hlen, hpad,
    Nat.min_eq_left (Nat.le_succ_of_le hlen)]
  simp [hlen]

theorem packet_whole {n : ℕ} (hpos : 0 < n) (hn : n ≤ m.STM_MAX_PACKET_LENGTH) :
    0 < n + padding n ∧ 8 ∣ n + padding n ∧ n + padding n ≤ m.STM_MAX_PACKET_LENGTH := by
  have hwords := m.packet_words
  rw [padding]
  omega

/-- Of the reads the loop gets to, up to the one that meets the end, none fails. The loop
gets to a read if the packets before it are accepted. -/
def SendSound (m : Module) (d : Driver) (fails : ℕ → Bool) (j : ℕ) (f : Stream (BitVec 8)) :
    Prop :=
  ∀ i ≤ f.rest.length, (∀ k < i / m.STM_MAX_PACKET_LENGTH, 0 ≤ d.write (j + k)) →
    fails (f.calls + i) = false

variable {d : Driver} {j : ℕ} {f : Stream (BitVec 8)}

theorem SendSound.packet (h : m.SendSound d fails j f) :
    PacketSound fails m.STM_MAX_PACKET_LENGTH f := by
  intro i hi hle
  refine h i hle fun k hk => ?_
  rw [Nat.div_eq_of_lt hi] at hk
  exact absurd hk (Nat.not_lt_zero k)

theorem SendSound.next (h : m.SendSound d fails j f) (hw : 0 ≤ d.write j)
    (hlen : m.STM_MAX_PACKET_LENGTH ≤ f.rest.length) :
    m.SendSound d fails (j + 1) ⟨f.rest.drop m.STM_MAX_PACKET_LENGTH,
      f.calls + m.STM_MAX_PACKET_LENGTH, false⟩ := by
  intro i hi hk
  rw [List.length_drop] at hi
  have hstep := h (i + m.STM_MAX_PACKET_LENGTH) (by omega) fun k hlt => ?_
  · rw [Nat.add_comm i] at hstep
    simpa [Nat.add_assoc] using hstep
  · rw [Nat.add_div_right i m.packet_pos] at hlt
    cases k with
    | zero => exact hw
    | succ k =>
      have hwk := hk k (by omega)
      rwa [Nat.add_assoc, Nat.add_comm 1] at hwk

/-- What a run of the loop over the bytes has sent when it is over. -/
structure Sent (m : Module) (rest : List (BitVec 8)) (r : Download) : Prop where
  bounded : r.stream.rest.length ≤ rest.length
  flatten : ∃ k < 8, r.packets.flatten =
    (rest.take (rest.length - r.stream.rest.length)).map Cell.read ++ List.replicate k .fill
  count : r.packets.length * m.STM_MAX_PACKET_LENGTH <
    rest.length - r.stream.rest.length + m.STM_MAX_PACKET_LENGTH
  whole : ∀ p ∈ r.packets, 0 < p.length ∧ 8 ∣ p.length ∧ p.length ≤ m.STM_MAX_PACKET_LENGTH

section Turns
variable {fuel : ℕ} {ret : ℤ}

/-! One turn of the loop, by what becomes of its packet. -/

theorem send_done (hempty : (m.stmGetpacket fails f).1.length = 0) :
    m.sendPackets d fails (fuel + 1) j ret f = some ⟨[], ret, (m.stmGetpacket fails f).2⟩ :=
  if_pos hempty

theorem send_refused (hne : (m.stmGetpacket fails f).1.length ≠ 0) (hw : d.write j < 0) :
    m.sendPackets d fails (fuel + 1) j ret f =
      some ⟨[(m.stmGetpacket fails f).1], d.write j, (m.stmGetpacket fails f).2⟩ := by
  rw [sendPackets]
  exact (if_neg hne).trans (if_pos hw)

theorem send_next (hne : (m.stmGetpacket fails f).1.length ≠ 0) (hw : 0 ≤ d.write j) :
    m.sendPackets d fails (fuel + 1) j ret f =
      (m.sendPackets d fails fuel (j + 1) (d.write j) (m.stmGetpacket fails f).2).map fun r =>
        { r with packets := (m.stmGetpacket fails f).1 :: r.packets } := by
  rw [sendPackets]
  exact (if_neg hne).trans (if_neg (not_lt.mpr hw))

end Turns

theorem getpacket_feof (hfeof : f.feof = true) (hrest : f.rest = []) :
    (m.stmGetpacket fails f).1.length = 0 ∧ (m.stmGetpacket fails f).2.rest = [] := by
  have hempty : (readPacket fails m.STM_MAX_PACKET_LENGTH f).1 = [] ∧
      (readPacket fails m.STM_MAX_PACKET_LENGTH f).2.rest = [] := readPacket_feof hfeof hrest
  obtain ⟨hread, hend⟩ := hempty
  refine ⟨?_, hend⟩
  rw [stmGetpacket, hread, padPacket_eq _ _ m.packet_words]
  rfl

theorem take_read (rest : List (BitVec 8)) (n : ℕ) :
    rest.take (rest.length - (rest.drop n).length) = rest.take n := by
  rw [List.length_drop]
  rcases Nat.le_total n rest.length with h | h
  · rw [Nat.sub_sub_self h]
  · rw [Nat.sub_eq_zero_of_le h, Nat.sub_zero, List.take_of_length_le h, List.take_length]

theorem Sent.empty {rest : List (BitVec 8)} {ret : ℤ} {g : Stream (BitVec 8)}
    (hg : g.rest = rest) : m.Sent rest ⟨[], ret, g⟩ := by
  have hpos := m.packet_pos
  refine ⟨by rw [hg], ⟨0, by decide, ?_⟩, ?_, fun p hp => absurd hp List.not_mem_nil⟩
  · dsimp only
    rw [hg, Nat.sub_self]
    rfl
  · dsimp only
    rw [hg, Nat.sub_self]
    simpa using hpos

theorem Sent.cons {rest : List (BitVec 8)} {r : Download}
    (h : m.Sent (rest.drop m.STM_MAX_PACKET_LENGTH) r)
    (hlen : m.STM_MAX_PACKET_LENGTH ≤ rest.length) :
    m.Sent rest { r with
      packets := (rest.take m.STM_MAX_PACKET_LENGTH).map Cell.read :: r.packets } := by
  have hbounded := h.bounded
  rw [List.length_drop] at hbounded
  have hsplit : rest.length - r.stream.rest.length = m.STM_MAX_PACKET_LENGTH +
      ((rest.drop m.STM_MAX_PACKET_LENGTH).length - r.stream.rest.length) := by
    rw [List.length_drop]
    omega
  have htake : ((rest.take m.STM_MAX_PACKET_LENGTH).map Cell.read).length =
      m.STM_MAX_PACKET_LENGTH := by
    rw [List.length_map, List.length_take, Nat.min_eq_left hlen]
  refine ⟨by dsimp only; omega, ?_, ?_, fun p hp => ?_⟩
  · obtain ⟨k, hk, hflat⟩ := h.flatten
    refine ⟨k, hk, ?_⟩
    dsimp only
    rw [List.flatten_cons, hflat, hsplit, List.take_add, List.map_append, List.append_assoc]
  · have hcount := h.count
    dsimp only
    rw [hsplit, List.length_cons, Nat.succ_mul]
    omega
  · rcases List.mem_cons.mp hp with hp | hp
    · rw [hp, htake]
      exact ⟨m.packet_pos, m.packet_words, le_rfl⟩
    · exact h.whole p hp

theorem Sent.last {rest : List (BitVec 8)} {ret : ℤ} {g : Stream (BitVec 8)} (hne : rest ≠ [])
    (hg : g.rest = rest.drop m.STM_MAX_PACKET_LENGTH) :
    m.Sent rest ⟨[(rest.take m.STM_MAX_PACKET_LENGTH).map .read ++
      List.replicate (padding (min m.STM_MAX_PACKET_LENGTH rest.length)) .fill], ret, g⟩ := by
  have hpos : 0 < min m.STM_MAX_PACKET_LENGTH rest.length :=
    Nat.lt_min.mpr ⟨m.packet_pos, List.length_pos_of_ne_nil hne⟩
  refine ⟨?_, ⟨padding (min m.STM_MAX_PACKET_LENGTH rest.length), padding_lt _, ?_⟩, ?_,
    fun p hp => ?_⟩
  · rw [hg, List.length_drop]
    exact Nat.sub_le _ _
  · dsimp only
    rw [List.flatten_singleton, hg, take_read]
  · dsimp only
    rw [hg, List.length_drop, List.length_singleton]
    omega
  · rw [List.mem_singleton.mp hp, List.length_append, List.length_map, List.length_take,
      List.length_replicate]
    exact packet_whole hpos (Nat.min_le_left _ _)

theorem send_sound (hfeof : f.feof = false) (h : m.SendSound d fails j f) (ret : ℤ) :
    ∃ r, (∀ k, m.sendPackets d fails (k + f.rest.length + 2) j ret f = some r) ∧
      m.Sent f.rest r ∧ ((∀ k, 0 ≤ d.write (j + k)) → r.stream.rest = []) := by
  induction hn : f.rest.length using Nat.strong_induction_on generalizing f j ret with
  | _ n ih =>
    have hpacket := stmGetpacket_sound hfeof h.packet
    have hgrest : (m.stmGetpacket fails f).2.rest = f.rest.drop m.STM_MAX_PACKET_LENGTH := by
      rw [hpacket]
    by_cases hnil : f.rest = []
    · have hempty : (m.stmGetpacket fails f).1.length = 0 := by
        rw [hpacket, hnil]
        simp [padding]
      rw [hnil, List.drop_nil] at hgrest
      exact ⟨_, fun k => send_done hempty, Sent.empty (hgrest.trans hnil.symm), fun _ => hgrest⟩
    have hlast (ret : ℤ) {g : Stream (BitVec 8)}
        (hg : g.rest = f.rest.drop m.STM_MAX_PACKET_LENGTH) :
        m.Sent f.rest ⟨[(m.stmGetpacket fails f).1], ret, g⟩ := by
      rw [hpacket]
      exact Sent.last hnil hg
    have hne : (m.stmGetpacket fails f).1.length ≠ 0 :=
      ((hlast 0 hgrest).whole _ (List.mem_singleton_self _)).1.ne'
    by_cases hw : d.write j < 0
    · exact ⟨_, fun k => send_refused hne hw, hlast (d.write j) hgrest,
        fun hall => absurd (hall 0) (not_le.mpr hw)⟩
    rw [not_lt] at hw
    by_cases hlen : f.rest.length < m.STM_MAX_PACKET_LENGTH
    · -- The file ends in this packet, and the next turn finds nothing.
      have hdrop := List.drop_eq_nil_of_le hlen.le
      have hend : (m.stmGetpacket fails f).2.feof = true := by
        rw [hpacket]
        exact decide_eq_true hlen
      obtain ⟨hempty, hrest⟩ :=
        @getpacket_feof m fails (m.stmGetpacket fails f).2 hend (hgrest.trans hdrop)
      refine ⟨_, fun k => ?_, hlast (d.write j) (hrest.trans hdrop.symm), fun _ => hrest⟩
      rw [send_next hne hw, send_done hempty]
      rfl
    · rw [not_lt] at hlen
      have hpos := m.packet_pos
      have hfull := stmGetpacket_full hfeof h.packet hlen
      obtain ⟨r, hrun, hsent, hall⟩ := ih (f.rest.drop m.STM_MAX_PACKET_LENGTH).length
        (by rw [List.length_drop]; omega) (f := ⟨_, _, false⟩) rfl (h.next hw hlen) (d.write j) rfl
      refine ⟨_, fun k => ?_, hsent.cons hlen, fun hwrites => hall fun k => ?_⟩
      · have hfuel : k + n + 1 = k + (m.STM_MAX_PACKET_LENGTH - 1) +
            (f.rest.drop m.STM_MAX_PACKET_LENGTH).length + 2 := by
          rw [List.length_drop]
          omega
        rw [send_next hne hw, hfuel, hfull, hrun]
        rfl
      · rw [Nat.add_assoc, Nat.add_comm 1]
        exact hwrites (k + 1)

theorem send_unsound (hfeof : f.feof = false) (h : ¬ m.SendSound d fails j f) {fuel : ℕ}
    {ret : ℤ} {r : Download} (hrun : m.sendPackets d fails fuel j ret f = some r) :
    .eof ∈ r.packets.flatten := by
  induction fuel generalizing f j ret r with
  | zero => cases hrun
  | succ fuel ih =>
    by_cases hp : PacketSound fails m.STM_MAX_PACKET_LENGTH f
    · simp only [SendSound, not_forall] at h
      obtain ⟨i, hi, hwrites, hfail⟩ := h
      have hlen : m.STM_MAX_PACKET_LENGTH ≤ i := by
        by_contra hlt
        exact hfail (hp i (not_le.mp hlt) hi)
      have hw : 0 ≤ d.write j := hwrites 0 (Nat.div_pos hlen m.packet_pos)
      have hfull := stmGetpacket_full hfeof hp (hlen.trans hi)
      have hne : (m.stmGetpacket fails f).1.length ≠ 0 := by
        rw [hfull, List.length_map, List.length_take, Nat.min_eq_left (hlen.trans hi)]
        exact m.packet_pos.ne'
      rw [send_next hne hw, hfull] at hrun
      obtain ⟨r', hrun', rfl⟩ := Option.map_eq_some_iff.mp hrun
      refine List.mem_append_right _ (ih rfl (fun hnext => hfail ?_) hrun')
      have hstep := hnext (i - m.STM_MAX_PACKET_LENGTH)
        (by rw [List.length_drop]; omega) fun k hk => ?_
      · rw [Nat.add_assoc, Nat.add_sub_cancel' hlen] at hstep
        exact hstep
      · have hdiv := Nat.add_div_right (i - m.STM_MAX_PACKET_LENGTH) m.packet_pos
        rw [Nat.sub_add_cancel hlen] at hdiv
        rw [Nat.add_assoc, Nat.add_comm 1]
        exact hwrites (k + 1) (by omega)
    · have hmem : .eof ∈ (m.stmGetpacket fails f).1 :=
        List.mem_append_left _ (readPacket_unsound hfeof hp)
      have hne : (m.stmGetpacket fails f).1.length ≠ 0 := (List.length_pos_of_mem hmem).ne'
      by_cases hw : d.write j < 0
      · rw [send_refused hne hw] at hrun
        rw [← Option.some.inj hrun]
        exact List.mem_append_left _ hmem
      · rw [send_next hne (not_lt.mp hw)] at hrun
        obtain ⟨r', -, rfl⟩ := Option.map_eq_some_iff.mp hrun
        exact List.mem_append_left _ hmem

theorem SendSound.of_sound (h : Sound fails f) : m.SendSound d fails j f := fun i hi _ => h i hi

theorem download_cases (d : Driver) (fails : ℕ → Bool) (content : List (BitVec 8)) :
    (¬ d.Ready ∧ ∃ ret < 0, ∀ fuel, m.stmDownloadFirmware d fails content fuel =
      some ⟨[], ret, opened content⟩) ∨
    (d.Ready ∧ ∀ fuel, m.stmDownloadFirmware d fails content fuel =
      m.sendPackets d fails fuel 0 d.setStartAddr (opened content)) := by
  simp only [Driver.Ready, stmDownloadFirmware]
  by_cases hb : d.bootloaderMode < 0
  · exact Or.inl ⟨fun h => absurd h.1 (not_le.mpr hb), _, hb, fun fuel => if_pos hb⟩
  by_cases he : d.massErase < 0
  · simp only [if_neg hb]
    exact Or.inl ⟨fun h => absurd h.2.1 (not_le.mpr he), _, he, fun fuel => if_pos he⟩
  by_cases ha : d.setStartAddr < 0
  · simp only [if_neg hb, if_neg he]
    exact Or.inl ⟨fun h => absurd h.2.2 (not_le.mpr ha), _, ha, fun fuel => if_pos ha⟩
  · simp only [if_neg hb, if_neg he, if_neg ha]
    exact Or.inr ⟨⟨not_lt.mp hb, not_lt.mp he, not_lt.mp ha⟩, fun _ => trivial⟩

end Module
end Cedric.Motosh
