import Cedric.Lib.Overlay
import Cedric.Motosh.Download

/-!
# The flash image and its CRC

Packets are written one behind the other over the erased flash. After a full
download of a file read without errors, the CRC over the whole flash is the one
that the version check computes for the file.
-/

namespace Cedric.Motosh

open ByteStream Overlay

namespace Module

variable (m : Module)

def flash (r : Download) : List (BitVec 8) :=
  (List.range m.FLASH_SIZE).map
    (layAll (fun _ => m.FLASH_FILL) 0 (r.packets.map fun p => p.map m.value))

variable {m}

theorem flash_eq {r : Download} {content : List (BitVec 8)} {k : ℕ}
    (hlen : content.length ≤ m.FLASH_SIZE)
    (h : r.packets.flatten = content.map Cell.read ++ List.replicate k .fill) :
    m.flash r = content ++ List.replicate (m.FLASH_SIZE - content.length) m.FLASH_FILL := by
  have hread : (fun b => m.value (.read b)) = id := rfl
  have hflat : (r.packets.map fun p => p.map m.value).flatten =
      content ++ List.replicate k m.FLASH_FILL := by
    rw [← List.map_flatten, h, List.map_append, List.map_map, List.map_replicate]
    change content.map (fun b => m.value (.read b)) ++ List.replicate k m.FLASH_FILL = _
    rw [hread, List.map_id]
  rw [flash, layAll_eq, hflat, lay_const, List.take_append, List.take_of_length_le hlen,
    List.take_replicate, List.length_append, List.length_replicate, List.append_assoc,
    List.replicate_append_replicate]
  congr 2
  omega

end Module

/-- A firmware file of at most `FLASH_SIZE` bytes that is read without errors: the download
returns; its packets are not empty, whole words and short enough; they are the file, or the
part that the driver took, and padding; and after a full download the flash has the CRC that
the version check computes for the file. -/
theorem download_agrees_with_check (m : Module) (d : Driver) (w : World) (fails : ℕ → Bool)
    {content : List (BitVec 8)} (hlen : content.length ≤ m.FLASH_SIZE)
    (hdownload : Sound fails (opened content)) (hfile : w.stmGetFwFile = .ok content)
    (hopens : w.crcAccess.opens = true) (hcheck : Sound w.crcAccess.fails (opened content)) :
    ∃ r, (∀ k, m.stmDownloadFirmware d fails content (k + content.length + 2) = some r) ∧
      (∀ p ∈ r.packets,
        0 < p.length ∧ 8 ∣ p.length ∧ p.length ≤ m.STM_MAX_PACKET_LENGTH) ∧
      (∃ n, ∃ k < 8, r.packets.flatten =
        (content.take n).map Cell.read ++ List.replicate k .fill) ∧
      (d.Ready → (∀ j, 0 ≤ d.write j) →
        (∃ k < 8, r.packets.flatten = content.map Cell.read ++ List.replicate k .fill) ∧
        w.stmCalcFwFileCrc m = .ok (calculateCrc32 (m.flash r))) := by
  rcases m.download_cases d fails content with ⟨hnot, ret, -, hrun⟩ | ⟨hready, hrun⟩
  · have hsent : m.Sent content ⟨[], ret, opened content⟩ := Module.Sent.empty rfl
    exact ⟨_, fun k => hrun _, hsent.whole, ⟨_, hsent.flatten⟩, fun h => absurd h hnot⟩
  obtain ⟨r, hsend, hsent, hall⟩ := Module.send_sound (m := m) (d := d) (j := 0) rfl
    (Module.SendSound.of_sound hdownload) d.setStartAddr
  refine ⟨r, fun k => (hrun _).trans (hsend k), hsent.whole, ⟨_, hsent.flatten⟩,
    fun _ hwrites => ?_⟩
  obtain ⟨k, hk, hflat⟩ := hsent.flatten
  rw [hall fun j => hwrites (0 + j), List.length_nil, Nat.sub_zero, List.take_length] at hflat
  refine ⟨⟨k, hk, hflat⟩, ?_⟩
  rw [World.stmCalcFwFileCrc, hfile]
  refine (calculateFileCrc32_opens hopens content m.FLASH_SIZE m.FLASH_FILL).trans ?_
  rw [drain_sound hcheck, Module.flash_eq hlen hflat]
  rfl

theorem download_agrees_with_check_small :
    ∃ r, (∀ k, MODULE_stml0xx.stmDownloadFirmware ⟨0, 0, 0, fun _ => 0⟩ (fun _ => false)
        versionFile (k + versionFile.length + 2) = some r) ∧
      (∀ p ∈ r.packets,
        0 < p.length ∧ 8 ∣ p.length ∧ p.length ≤ MODULE_stml0xx.STM_MAX_PACKET_LENGTH) ∧
      (∃ n, ∃ k < 8, r.packets.flatten =
        (versionFile.take n).map Cell.read ++ List.replicate k .fill) ∧
      (Driver.Ready ⟨0, 0, 0, fun _ => 0⟩ → (∀ j, 0 ≤ (fun _ => 0 : ℕ → ℤ) j) →
        (∃ k < 8, r.packets.flatten = versionFile.map Cell.read ++ List.replicate k .fill) ∧
        World.stmCalcFwFileCrc ⟨fun _ => some versionFile, ⟨true, true, true, fun _ => false⟩,
            ⟨true, true, true, fun _ => false⟩, ⟨3, 16, fun _ _ => none⟩, 20, [], fun _ => 0⟩
          MODULE_stml0xx = .ok (calculateCrc32 (MODULE_stml0xx.flash r))) :=
  download_agrees_with_check MODULE_stml0xx ⟨0, 0, 0, fun _ => 0⟩
    ⟨fun _ => some versionFile, ⟨true, true, true, fun _ => false⟩,
      ⟨true, true, true, fun _ => false⟩, ⟨3, 16, fun _ _ => none⟩, 20, [], fun _ => 0⟩
    (fun _ => false) (by decide) (fun _ _ => rfl) rfl rfl fun _ _ => rfl

end Cedric.Motosh
