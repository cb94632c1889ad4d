import Cedric.Lib.Overlay
import Cedric.Motosh.Download

/-!
# Short writes

The packet loop asks of the result of a `write` that it is not negative, and goes
on with the next packet. What a write did not take never reaches the flash, and
what follows is stored in its place.
-/

namespace Cedric.Motosh

open ByteStream Overlay

namespace Module

variable (m : Module)

def streamAt (fails : ℕ → Bool) (f : Stream (BitVec 8)) : ℕ → Stream (BitVec 8)
  | 0 => f
  | j + 1 => streamAt fails (m.stmGetpacket fails f).2 j

def packetAt (fails : ℕ → Bool) (f : Stream (BitVec 8)) (j : ℕ) : List Cell :=
  (m.stmGetpacket fails (m.streamAt fails f j)).1

def accepted (d : Driver) : ℕ → List (List Cell) → List (List Cell)
  | _, [] => []
  | j, packet :: packets => packet.take (d.write j).toNat :: accepted d (j + 1) packets

def hubFlash (d : Driver) (r : Download) : ℕ → BitVec 8 :=
  layAll (fun _ => m.FLASH_FILL) 0 ((accepted d 0 r.packets).map fun p => p.map m.value)

/-- A download that returns no error had every byte of every packet accepted, and if the file
was read without errors, the flash holds the file and behind it the fill. -/
structure WholeImage (d : Driver) (fails : ℕ → Bool) (content : List (BitVec 8)) : Prop where
  accepted : ∀ fuel r, m.stmDownloadFirmware d fails content fuel = some r → 0 ≤ r.ret →
    (accepted d 0 r.packets).flatten = r.packets.flatten
  image : Sound fails (opened content) → ∀ fuel r,
    m.stmDownloadFirmware d fails content fuel = some r → 0 ≤ r.ret →
      ∀ a, m.hubFlash d r a = content.getD a m.FLASH_FILL

/-- If the writes of all packets go through, no count is short of its packet. -/
def NoShortCount (d : Driver) (fails : ℕ → Bool) (content : List (BitVec 8)) : Prop :=
  ∀ n, m.packetAt fails (opened content) n = [] →
    (∀ j < n, m.packetAt fails (opened content) j ≠ [] ∧ 0 ≤ d.write j) →
      ∀ j < n, ((m.packetAt fails (opened content) j).length : ℤ) ≤ d.write j

variable {m} {d : Driver} {fails : ℕ → Bool} {f : Stream (BitVec 8)}

theorem accepted_flatten_length (j : ℕ) (packets : List (List Cell)) :
    (accepted d j packets).flatten.length ≤ packets.flatten.length := by
  induction packets generalizing j with
  | nil => exact le_rfl
  | cons packet packets ih =>
    have htail := ih (j + 1)
    simp only [accepted, List.flatten_cons, List.length_append, List.length_take]
    omega

theorem accepted_flatten_iff (j : ℕ) (packets : List (List Cell)) :
    (accepted d j packets).flatten = packets.flatten ↔
      ∀ i (hi : i < packets.length), packets[i].length ≤ (d.write (j + i)).toNat := by
  induction packets generalizing j with
  | nil => exact iff_of_true rfl fun i hi => absurd hi (Nat.not_lt_zero i)
  | cons packet packets ih =>
    have htail := ih (j + 1)
    constructor
    · intro h
      have hlength := congrArg List.length h
      have hbound := accepted_flatten_length (d := d) (j + 1) packets
      simp only [accepted, List.flatten_cons, List.length_append, List.length_take] at hlength
      have hhead : packet.length ≤ (d.write j).toNat := by omega
      rw [accepted, List.flatten_cons, List.flatten_cons, List.take_of_length_le hhead] at h
      have hrest := htail.mp (List.append_cancel_left h)
      intro i hi
      cases i with
      | zero => exact hhead
      | succ i =>
        have hi' := hrest i (Nat.lt_of_succ_lt_succ hi)
        rwa [Nat.add_assoc, Nat.add_comm 1] at hi'
    · intro h
      have hhead : packet.length ≤ (d.write j).toNat := h 0 (Nat.succ_pos _)
      rw [accepted, List.flatten_cons, List.flatten_cons, List.take_of_length_le hhead]
      congr 1
      refine htail.mpr fun i hi => ?_
      have hi' := h (i + 1) (Nat.succ_lt_succ hi)
      rwa [Nat.add_assoc, Nat.add_comm 1]

theorem sendPackets_returns {fuel j : ℕ} {ret : ℤ} {r : Download}
    (h : m.sendPackets d fails fuel j ret f = some r) :
    (∃ n, m.packetAt fails f n = [] ∧
      (∀ i < n, m.packetAt fails f i ≠ [] ∧ 0 ≤ d.write (j + i)) ∧
      r.packets = (List.range n).map (m.packetAt fails f)) ∨
    (r.ret < 0 ∧ ∃ i, d.write (j + i) < 0) := by
  induction fuel generalizing j ret f r with
  | zero => cases h
  | succ fuel ih =>
    by_cases hempty : (m.stmGetpacket fails f).1 = []
    · rw [send_done (List.length_eq_zero_iff.mpr hempty)] at h
      rw [← Option.some.inj h]
      exact Or.inl ⟨0, hempty, fun i hi => absurd hi (Nat.not_lt_zero i), rfl⟩
    have hne : (m.stmGetpacket fails f).1.length ≠ 0 := fun h0 =>
      hempty (List.length_eq_zero_iff.mp h0)
    by_cases hw : d.write j < 0
    · rw [send_refused hne hw] at h
      rw [← Option.some.inj h]
      exact Or.inr ⟨hw, 0, hw⟩
    rw [send_next hne (not_lt.mp hw)] at h
    obtain ⟨r', hrun, rfl⟩ := Option.map_eq_some_iff.mp h
    rcases ih hrun with ⟨n, hend, hbefore, hpackets⟩ | ⟨hret, i, hi⟩
    · refine Or.inl ⟨n + 1, hend, fun i hi => ?_, ?_⟩
      · cases i with
        | zero => exact ⟨hempty, not_lt.mp hw⟩
        | succ i =>
          have hi' := hbefore i (Nat.lt_of_succ_lt_succ hi)
          rwa [Nat.add_assoc, Nat.add_comm 1] at hi'
      · dsimp only
        rw [hpackets, List.range_succ_eq_map, List.map_cons, List.map_map]
        rfl
    · refine Or.inr ⟨hret, i + 1, ?_⟩
      rwa [Nat.add_assoc, Nat.add_comm 1] at hi

theorem sendPackets_goes_through {n : ℕ} (hend : m.packetAt fails f n = []) {j : ℕ} {ret : ℤ}
    (hbefore : ∀ i < n, m.packetAt fails f i ≠ [] ∧ 0 ≤ d.write (j + i)) (hret : 0 ≤ ret) :
    ∃ r, m.sendPackets d fails (n + 1) j ret f = some r ∧ 0 ≤ r.ret ∧
      r.packets = (List.range n).map (m.packetAt fails f) := by
  induction n generalizing j ret f with
  | zero => exact ⟨_, send_done (List.length_eq_zero_iff.mpr hend), hret, rfl⟩
  | succ n ih =>
    obtain ⟨hfirst, hw⟩ := hbefore 0 (Nat.succ_pos n)
    rw [Nat.add_zero] at hw
    have hne : (m.stmGetpacket fails f).1.length ≠ 0 := fun h0 =>
      hfirst (List.length_eq_zero_iff.mp h0)
    obtain ⟨r, hrun, hr, hpackets⟩ := ih (f := (m.stmGetpacket fails f).2) (j := j + 1) hend
      (fun i hi => by
        have hi' := hbefore (i + 1) (Nat.succ_lt_succ hi)
        rwa [Nat.add_assoc, Nat.add_comm 1]) hw
    refine ⟨{ r with packets := (m.stmGetpacket fails f).1 :: r.packets }, ?_, hr, ?_⟩
    · rw [send_next hne hw]
      exact congrArg _ hrun
    · dsimp only
      rw [hpackets, List.range_succ_eq_map, List.map_cons, List.map_map]
      rfl

theorem first_empty_unique {n n' : ℕ} (hn : m.packetAt fails f n = [])
    (hbefore : ∀ i < n, m.packetAt fails f i ≠ []) (hn' : m.packetAt fails f n' = [])
    (hbefore' : ∀ i < n', m.packetAt fails f i ≠ []) : n = n' := by
  rcases Nat.lt_trichotomy n n' with h | h | h
  · exact absurd hn (hbefore' n h)
  · exact h
  · exact absurd hn' (hbefore n' h)

/-- The packets of a file read without errors, if no packet is refused: the driver that
takes every packet gets the same ones. -/
theorem flatten_of_sound {content : List (BitVec 8)} (hsound : Sound fails (opened content))
    {n : ℕ} (hend : m.packetAt fails (opened content) n = [])
    (hbefore : ∀ i < n, m.packetAt fails (opened content) i ≠ []) :
    ∃ k, ((List.range n).map (m.packetAt fails (opened content))).flatten =
      content.map Cell.read ++ List.replicate k .fill := by
  obtain ⟨r, hrun, hsent, hall⟩ := send_sound (m := m) (d := ⟨0, 0, 0, fun _ => 0⟩) (j := 0) rfl
    (SendSound.of_sound hsound) 0
  have hrest : r.stream.rest = [] := hall fun _ => le_rfl
  obtain ⟨k, -, hflat⟩ := hsent.flatten
  rw [hrest, List.length_nil, Nat.sub_zero, List.take_length] at hflat
  rcases sendPackets_returns (hrun 0) with ⟨n', hend', hbefore', hpackets⟩ | ⟨-, i, hi⟩
  · rw [first_empty_unique hend hbefore hend' fun i hi => (hbefore' i hi).1, ← hpackets]
    exact ⟨k, hflat⟩
  · exact absurd hi (lt_irrefl 0)

theorem hubFlash_of_accepted {r : Download} {content : List (BitVec 8)} {k : ℕ}
    (haccepted : (accepted d 0 r.packets).flatten = r.packets.flatten)
    (hflat : r.packets.flatten = content.map Cell.read ++ List.replicate k .fill) (a : ℕ) :
    m.hubFlash d r a = content.getD a m.FLASH_FILL := by
  have hread : (fun b => m.value (.read b)) = id := rfl
  have hvalues : ((accepted d 0 r.packets).map fun p => p.map m.value).flatten =
      content ++ List.replicate k m.FLASH_FILL := by
    rw [← List.map_flatten, haccepted, hflat, List.map_append, List.map_map, List.map_replicate]
    change content.map (fun b => m.value (.read b)) ++ List.replicate k m.FLASH_FILL = _
    rw [hread, List.map_id]
  rw [hubFlash, layAll_eq, hvalues, lay, if_pos (Nat.zero_le a), Nat.sub_zero]
  rcases Nat.lt_or_ge a content.length with ha | ha
  · rw [List.getD_append _ _ _ _ ha]
  · rw [List.getD_append_right _ _ _ _ ha, List.getD_eq_default _ _ ha]
    rcases Nat.lt_or_ge (a - content.length) k with hk | hk
    · exact List.getD_replicate _ hk
    · exact List.getD_eq_default _ _ (by rwa [List.length_replicate])

theorem NoShortCount.accepted {content : List (BitVec 8)} (h : m.NoShortCount d fails content)
    {fuel : ℕ} {ret : ℤ} {r : Download}
    (hr : m.sendPackets d fails fuel 0 ret (opened content) = some r) (hret : 0 ≤ r.ret) :
    ∃ n, m.packetAt fails (opened content) n = [] ∧
      (∀ i < n, m.packetAt fails (opened content) i ≠ []) ∧
      r.packets = (List.range n).map (m.packetAt fails (opened content)) ∧
      (Module.accepted d 0 r.packets).flatten = r.packets.flatten := by
  rcases sendPackets_returns hr with ⟨n, hend, hbefore, hpackets⟩ | ⟨hneg, -⟩
  · simp only [Nat.zero_add] at hbefore
    refine ⟨n, hend, fun i hi => (hbefore i hi).1, hpackets, ?_⟩
    rw [accepted_flatten_iff]
    intro i hi
    have hin : i < n := by simpa [hpackets] using hi
    have hfull := h n hend hbefore i hin
    simp only [hpackets, List.getElem_map, List.getElem_range, Nat.zero_add]
    omega
  · exact absurd hneg (not_lt.mpr hret)

end Module

/-- A download that returns no error left the whole image in the flash, exactly if, with the
driver ready, no write it gets to counts short, unless a later one is refused. -/
theorem wholeImage_iff (m : Module) (d : Driver) (fails : ℕ → Bool) (content : List (BitVec 8)) :
    m.WholeImage d fails content ↔ (d.Ready → m.NoShortCount d fails content) := by
  rcases m.download_cases d fails content with ⟨hnot, ret, hneg, hrun⟩ | ⟨hready, hrun⟩
  · have herror (fuel : ℕ) (r : Download)
        (h : m.stmDownloadFirmware d fails content fuel = some r) : r.ret < 0 := by
      rw [hrun fuel] at h
      rw [← Option.some.inj h]
      exact hneg
    refine iff_of_true ⟨fun fuel r h hr => ?_, fun _ fuel r h hr => ?_⟩ fun h => absurd h hnot
    · exact absurd (herror fuel r h) (not_lt.mpr hr)
    · exact absurd (herror fuel r h) (not_lt.mpr hr)
  constructor
  · intro h _ n hend hbefore j hj
    have hwrites : ∀ i < n, m.packetAt fails (opened content) i ≠ [] ∧ 0 ≤ d.write (0 + i) := by
      simpa only [Nat.zero_add] using hbefore
    obtain ⟨r, hsend, hret, hpackets⟩ :=
      Module.sendPackets_goes_through hend hwrites hready.2.2
    have haccepted := h.accepted (n + 1) r ((hrun _).trans hsend) hret
    rw [hpackets, Module.accepted_flatten_iff] at haccepted
    have hfull := haccepted j (by simpa using hj)
    rw [List.getElem_map, List.getElem_range, Nat.zero_add] at hfull
    have hw := (hbefore j hj).2
    omega
  · intro h
    refine ⟨fun fuel r hr hret => ?_, fun hsound fuel r hr hret => ?_⟩
    all_goals rw [hrun fuel] at hr
    · obtain ⟨n, -, -, -, haccepted⟩ := (h hready).accepted hr hret
      exact haccepted
    · obtain ⟨n, hend, hbefore, hpackets, haccepted⟩ := (h hready).accepted hr hret
      obtain ⟨k, hflat⟩ := Module.flatten_of_sound hsound hend hbefore
      rw [← hpackets] at hflat
      exact Module.hubFlash_of_accepted haccepted hflat

/-- Eleven zero bytes make one packet of sixteen; the driver takes eight of them. -/
theorem short_count_loses_bytes :
    ¬ MODULE_motosh.WholeImage ⟨0, 0, 0, fun _ => 8⟩ (fun _ => false) (List.replicate 11 0) := by
  intro h
  have hrun : MODULE_motosh.stmDownloadFirmware ⟨0, 0, 0, fun _ => 8⟩ (fun _ => false)
      (List.replicate 11 0) 2 = some ⟨[List.replicate 11 (.read 0) ++ List.replicate 5 .fill], 8,
        ⟨[], 13, true⟩⟩ := rfl
  have hflash := h.image (fun _ _ => rfl) 2 _ hrun (by decide) 8
  exact absurd hflash (by decide)

end Cedric.Motosh
