import Cedric.Motosh.Download

/-!
# Read errors during a download

The packet loop ends at the end-of-file indicator alone. While the reads it gets to
succeed it ends after the packets of the file; once one fails it sends a byte that
was never read, and while reads keep failing it never ends.
-/

namespace Cedric.Motosh

open ByteStream

namespace Module

variable (m : Module)

def bytesRead (content : List (BitVec 8)) (r : Download) : ℕ :=
  content.length - r.stream.rest.length

/-- The download returns; it sends at most the packets that the bytes it read fill, and in
them these bytes and final padding only. -/
def DownloadsRead (d : Driver) (fails : ℕ → Bool) (content : List (BitVec 8)) : Prop :=
  ∃ n r, (∀ fuel ≥ n, m.stmDownloadFirmware d fails content fuel = some r) ∧
    r.packets.length ≤
      (bytesRead content r + m.STM_MAX_PACKET_LENGTH - 1) / m.STM_MAX_PACKET_LENGTH ∧
    ∃ k < 8, r.packets.flatten =
      (content.take (bytesRead content r)).map Cell.read ++ List.replicate k .fill

variable {m}

theorem Sent.count_le {content : List (BitVec 8)} {r : Download} (h : m.Sent content r) :
    r.packets.length ≤
      (bytesRead content r + m.STM_MAX_PACKET_LENGTH - 1) / m.STM_MAX_PACKET_LENGTH := by
  rw [Nat.le_div_iff_mul_le m.packet_pos, bytesRead]
  have hcount := h.count
  omega

theorem eof_not_mem {bytes : List (BitVec 8)} {k : ℕ} :
    Cell.eof ∉ bytes.map Cell.read ++ List.replicate k .fill := by
  simp [List.mem_replicate]

variable {fails : ℕ → Bool} {d : Driver} {f : Stream (BitVec 8)}

theorem readPacket_failing (hfeof : f.feof = false)
    (hfails : ∀ n, f.calls ≤ n → fails n = true) (room : ℕ) :
    readPacket fails room f =
      (List.replicate room .eof, { f with calls := f.calls + room }) := by
  obtain ⟨rest, n, e⟩ := f
  subst hfeof
  induction room generalizing n with
  | zero => rfl
  | succ room ih =>
    simp only [readPacket, fgetc_fails (f := ⟨rest, n, false⟩) (hfails n le_rfl)]
    rw [ih (n + 1) fun k hk => hfails k (Nat.le_of_succ_le hk)]
    simp only [Bool.false_eq_true, ↓reduceIte, List.replicate_succ, Nat.add_assoc, Nat.add_comm 1]

theorem send_failing (hw : ∀ j, 0 ≤ d.write j) (hfeof : f.feof = false)
    (hfails : ∀ n, f.calls ≤ n → fails n = true) (fuel j : ℕ) (ret : ℤ) :
    m.sendPackets d fails fuel j ret f = none := by
  induction fuel generalizing f j ret with
  | zero => rfl
  | succ fuel ih =>
    have hread := readPacket_failing hfeof hfails m.STM_MAX_PACKET_LENGTH
    have hne : (m.stmGetpacket fails f).1.length ≠ 0 := by
      have hpos := m.packet_pos
      rw [stmGetpacket, hread, List.length_append, List.length_replicate]
      omega
    have hnext : (m.stmGetpacket fails f).2 =
        { f with calls := f.calls + m.STM_MAX_PACKET_LENGTH } := by
      rw [stmGetpacket, hread]
    have hlater (k : ℕ) (hk : f.calls + m.STM_MAX_PACKET_LENGTH ≤ k) : fails k = true :=
      hfails k ((Nat.le_add_right _ _).trans hk)
    rw [send_next hne (hw j), hnext,
      ih (f := { f with calls := f.calls + m.STM_MAX_PACKET_LENGTH }) hfeof hlater]
    rfl

end Module

/-- A download sends what it read and returns exactly if, with the driver ready, none of the
reads it gets to fails, up to the one that meets the end of the file. -/
theorem downloadsRead_iff (m : Module) (d : Driver) (fails : ℕ → Bool)
    (content : List (BitVec 8)) :
    m.DownloadsRead d fails content ↔
      (d.Ready → ∀ i ≤ content.length,
        (∀ j < i / m.STM_MAX_PACKET_LENGTH, 0 ≤ d.write j) → fails i = false) := by
  have hsound : m.SendSound d fails 0 (opened content) ↔ ∀ i ≤ content.length,
      (∀ j < i / m.STM_MAX_PACKET_LENGTH, 0 ≤ d.write j) → fails i = false := by
    simp only [Module.SendSound, opened, Nat.zero_add]
  rw [← hsound]
  rcases m.download_cases d fails content with ⟨hnot, ret, -, hrun⟩ | ⟨hready, hrun⟩
  · have hsent : m.Sent content ⟨[], ret, opened content⟩ := Module.Sent.empty rfl
    exact iff_of_true ⟨0, _, fun fuel _ => hrun fuel, hsent.count_le, hsent.flatten⟩
      fun h => absurd h hnot
  constructor
  · intro h _
    by_contra hfails
    obtain ⟨n, r, hreturn, -, k, -, hflat⟩ := h
    have heof := Module.send_unsound rfl hfails ((hrun n).symm.trans (hreturn n le_rfl))
    rw [hflat] at heof
    exact Module.eof_not_mem heof
  · intro h
    obtain ⟨r, hsend, hsent, -⟩ := Module.send_sound rfl (h hready) d.setStartAddr
    refine ⟨content.length + 2, r, fun fuel hfuel => ?_, hsent.count_le, hsent.flatten⟩
    obtain ⟨k, rfl⟩ := Nat.exists_eq_add_of_le' hfuel
    exact (hrun _).trans (hsend k)

/-- An empty file whose reads all fail. -/
theorem failing_reads_never_end :
    (∀ fuel, MODULE_stml0xx.stmDownloadFirmware ⟨0, 0, 0, fun _ => 0⟩ (fun _ => true) [] fuel =
      none) ∧
      ¬ MODULE_stml0xx.DownloadsRead ⟨0, 0, 0, fun _ => 0⟩ (fun _ => true) [] := by
  have hrun (fuel : ℕ) : MODULE_stml0xx.stmDownloadFirmware ⟨0, 0, 0, fun _ => 0⟩
      (fun _ => true) [] fuel = none :=
    Module.send_failing (fun _ => le_rfl) rfl (fun _ _ => rfl) fuel 0 0
  refine ⟨hrun, fun h => ?_⟩
  obtain ⟨n, r, hreturn, -⟩ := h
  have hsome := hreturn n le_rfl
  rw [hrun n] at hsome
  cases hsome

end Cedric.Motosh
