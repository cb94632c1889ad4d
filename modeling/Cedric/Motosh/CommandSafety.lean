import Mathlib.Data.List.TakeWhile
import Cedric.Motosh.Commands
import Cedric.Motosh.HexConversion

/-!
# Which arguments keep the commands inside their buffers

An argument that encodes more than one byte is refused only after its bytes were
stored, so a long last one leaves the buffer. `passthrough` takes four arguments
but reads the fifth and sixth byte of its buffer.
-/

namespace Cedric.Motosh

open Accesses

section Digits

variable {c d : BitVec 8} {hi lo : ℤ}

theorem takeWhile_digits (hc : hexDigit c = some hi) (hd : hexDigit d = some lo) :
    [c, d].takeWhile (· ≠ 0) = [c, d] := by
  have hc0 : c ≠ 0#8 := ne_of_hexDigit hc (by decide)
  have hd0 : d ≠ 0#8 := ne_of_hexDigit hd (by decide)
  exact List.takeWhile_eq_self_iff.mpr (by simp [hc0, hd0])

theorem argValue_of_convertArg {argv : List (List (BitVec 8))} {i : ℕ} {x : BitVec 8}
    (h : convertArg argv i = [x]) : ArgValue argv i x := by
  refine ⟨h, fun c d hi lo harg hc hd => ?_⟩
  have hone : convertArg argv i = [BitVec.ofInt 8 (16 * hi + lo)] := by
    simp only [convertArg, harg, takeWhile_digits hc hd]
    simp [stmConvertAsciiToHex, convertFrom, scanByte_digits hc hd []]
  rw [h] at hone
  exact List.singleton_inj.mp hone

end Digits

def IsHeader (argv : List (List (BitVec 8))) (header : List (BitVec 8)) : Prop :=
  header.length = STM_MAX_GENERIC_HEADER ∧ ∀ k (hk : k < header.length),
    convertArg argv (STM_MAX_GENERIC_COMMAND_LEN + k) = [header[k]]

structure ReadwriteFits (argv : List (List (BitVec 8))) (malloc : Bool) : Prop where
  header : Fits argv STM_MAX_GENERIC_HEADER STM_MAX_GENERIC_COMMAND_LEN 0 STM_MAX_GENERIC_HEADER
  data : ∀ header, IsHeader argv header → SizeAccepted argv header → malloc = true ∧
    (readWrite argv ≠ 0 →
      Fits argv (headerSize header) (STM_MAX_GENERIC_COMMAND_LEN + STM_MAX_GENERIC_HEADER)
        STM_MAX_GENERIC_HEADER (headerSize header + STM_MAX_GENERIC_HEADER))

section Readwrite
variable {argv : List (List (BitVec 8))} {header : List (BitVec 8)}
  {m : Memory Buffer (BitVec 8)}

theorem writeExact_lay (hheader : IsHeader argv header) {xs : List (BitVec 8)}
    (hlen : xs.length = headerSize header)
    (hbytes : ∀ k (hk : k < xs.length), convertArg argv
      (STM_MAX_GENERIC_COMMAND_LEN + STM_MAX_GENERIC_HEADER + k) = [xs[k]])
    (hargs : argv.length =
      STM_MAX_GENERIC_COMMAND_LEN + (headerSize header + STM_MAX_GENERIC_HEADER))
    (hsize : m.size .dataPtr = headerSize header + STM_MAX_GENERIC_HEADER)
    (hheaderCells : ∀ k (hk : k < header.length), m.cell .dataPtr k = some header[k]) :
    WriteExact argv (m.lay .dataPtr STM_MAX_GENERIC_HEADER xs) := by
  have hfour : header.length = STM_MAX_GENERIC_HEADER := hheader.1
  have hcell (k : ℕ) (hk : k < header.length) :
      (m.lay .dataPtr STM_MAX_GENERIC_HEADER xs).cell .dataPtr k = some header[k] := by
    rw [cell_lay_other (Or.inr (Or.inl (hfour ▸ hk))), hheaderCells k hk]
  have htwo : 2 < header.length := by rw [hfour]; decide
  have hthree : 3 < header.length := by rw [hfour]; decide
  refine ⟨fun o ho => ?_, ⟨header[2], header[3], hcell 2 htwo, hcell 3 hthree, ?_⟩, ?_⟩
  · by_cases hpart : o < STM_MAX_GENERIC_HEADER
    · have ho' : o < header.length := hfour ▸ hpart
      exact ⟨header[o], hcell o ho', argValue_of_convertArg (hheader.2 o ho')⟩
    · obtain ⟨k, rfl⟩ := Nat.exists_eq_add_of_le (not_lt.mp hpart)
      have hk : k < xs.length := by
        change STM_MAX_GENERIC_HEADER + k < m.size .dataPtr at ho
        omega
      refine ⟨xs[k], cell_lay hk, argValue_of_convertArg ?_⟩
      rw [← Nat.add_assoc]
      exact hbytes k hk
  · change m.size .dataPtr = _
    rw [hsize, headerSize, List.getD_eq_getElem _ _ htwo, List.getD_eq_getElem _ _ hthree]
    exact Nat.add_comm _ _
  · change argv.length = _ + m.size .dataPtr
    rw [hsize, hargs]

theorem safeRun_transfer (hheader : IsHeader argv header) (haccepted : SizeAccepted argv header)
    (hsize : m.size .dataPtr = headerSize header + STM_MAX_GENERIC_HEADER)
    (hheaderCells : ∀ k (hk : k < header.length), m.cell .dataPtr k = some header[k])
    (hstored : ∀ k < headerSize header + STM_MAX_GENERIC_HEADER,
      (m.cell .dataPtr k).isSome) :
    SafeRun (EventSafe argv) m (transfer argv (headerSize header)) ↔
      (readWrite argv ≠ 0 → Fits argv (headerSize header)
        (STM_MAX_GENERIC_COMMAND_LEN + STM_MAX_GENERIC_HEADER) STM_MAX_GENERIC_HEADER
        (headerSize header + STM_MAX_GENERIC_HEADER)) := by
  rw [transfer]
  by_cases hwrite : readWrite argv ≠ 0
  · have hargs : argv.length =
        STM_MAX_GENERIC_COMMAND_LEN + (headerSize header + STM_MAX_GENERIC_HEADER) := by
      have := haccepted.2.2 hwrite
      omega
    rw [if_pos hwrite, imp_iff_right hwrite]
    dsimp only
    rw [safeRun_append, safeRun_convertArgs (by omega), hsize, and_iff_left_iff_imp]
    intro _
    cases hout : (convertArgs argv .dataPtr (headerSize header)
        (STM_MAX_GENERIC_COMMAND_LEN + STM_MAX_GENERIC_HEADER) STM_MAX_GENERIC_HEADER).2 with
    | none => trivial
    | some xs =>
      obtain ⟨hlen, hbytes, hmem⟩ := convertArgs_some (m := m) hout
      rw [hmem]
      exact (safeRun_event _ _).mpr
        ⟨writeExact_lay hheader hlen hbytes hargs hsize hheaderCells, trivial⟩
  · rw [if_neg hwrite, safeRun_event, safeRun_loads]
    refine iff_of_true ⟨trivial, fun k hk => ?_⟩ fun h => absurd h hwrite
    rw [Nat.zero_add, hsize]
    exact ⟨by omega, hstored k (by omega)⟩

variable (argv) in
theorem safeRun_fillRequest {zeros : List (BitVec 8)} (hlen : header.length ≤ zeros.length)
    (hsize : m.size .dataPtr = zeros.length) (hbuffer : m.size .dataHeader = header.length)
    (hcells : ∀ k (hk : k < header.length), m.cell .dataHeader k = some header[k])
    (rest : List CommandAccess) :
    SafeRun (EventSafe argv) m (stores .dataPtr 0 zeros ++
        (loads .dataHeader 0 header.length ++ (stores .dataPtr 0 header ++ rest))) ↔
      SafeRun (EventSafe argv) ((m.lay .dataPtr 0 zeros).lay .dataPtr 0 header) rest := by
  have hzeros : SafeRun (EventSafe argv) m (stores .dataPtr 0 zeros) :=
    (safeRun_stores 0 zeros).mpr (Or.inr (by rw [hsize, Nat.zero_add]))
  have hloads : SafeRun (EventSafe argv) (m.lay .dataPtr 0 zeros)
      (loads .dataHeader 0 header.length) := by
    refine (safeRun_loads _ _).mpr fun k hk => ?_
    rw [cell_lay_other (Or.inl (by decide)), Nat.zero_add, hcells k hk]
    exact ⟨hbuffer.symm ▸ hk, rfl⟩
  have hheader : SafeRun (EventSafe argv) (m.lay .dataPtr 0 zeros)
      (stores .dataPtr 0 header) := by
    refine (safeRun_stores 0 header).mpr (Or.inr ?_)
    rw [Nat.zero_add]
    exact hlen.trans hsize.ge
  rw [safeRun_append, and_iff_right hzeros, foldl_stores, safeRun_append, and_iff_right hloads,
    foldl_loads, safeRun_append, and_iff_right hheader, foldl_stores]

theorem not_safeRun_nullStores {xs : List (BitVec 8)} (hsize : m.size .dataPtr = 0)
    (hpos : 0 < xs.length) (rest : List CommandAccess) :
    ¬ SafeRun (EventSafe argv) m (stores .dataPtr 0 xs ++ rest) := by
  rw [safeRun_append, safeRun_stores, hsize]
  rintro ⟨hnil | hle, -⟩
  · exact hpos.ne' (List.length_eq_zero_iff.mpr hnil)
  · omega

theorem safeRun_readwriteData {malloc : Bool} (hheader : IsHeader argv header)
    (hsize : m.size .dataPtr = 0) (hbuffer : m.size .dataHeader = STM_MAX_GENERIC_HEADER)
    (hcells : ∀ k (hk : k < header.length), m.cell .dataHeader k = some header[k]) :
    SafeRun (EventSafe argv) m (readwriteData argv malloc header) ↔
      (SizeAccepted argv header → malloc = true ∧ (readWrite argv ≠ 0 →
        Fits argv (headerSize header) (STM_MAX_GENERIC_COMMAND_LEN + STM_MAX_GENERIC_HEADER)
          STM_MAX_GENERIC_HEADER (headerSize header + STM_MAX_GENERIC_HEADER))) := by
  rw [readwriteData]
  by_cases haccepted : SizeAccepted argv header
  swap
  · rw [if_neg haccepted]
    exact iff_of_true trivial fun h => absurd h haccepted
  rw [if_pos haccepted, imp_iff_right haccepted]
  dsimp only
  set zeros : List (BitVec 8) := List.replicate (headerSize header + STM_MAX_GENERIC_HEADER) 0
  have hlen : zeros.length = headerSize header + STM_MAX_GENERIC_HEADER := List.length_replicate
  cases malloc with
  | false =>
    have hpos : 0 < zeros.length := by rw [hlen]; exact Nat.add_pos_right _ (by decide)
    rw [if_neg Bool.false_ne_true, List.nil_append]
    exact iff_of_false (not_safeRun_nullStores hsize hpos _) fun h => Bool.false_ne_true h.1
  | true =>
    set m₁ : Memory Buffer (BitVec 8) := m.after
      (.alloc .dataPtr (headerSize header + STM_MAX_GENERIC_HEADER) : CommandAccess) with hm₁
    have hsize₁ : m₁.size .dataPtr = headerSize header + STM_MAX_GENERIC_HEADER := by
      simp only [hm₁, Memory.after, Function.update_self]
    have hbuffer₁ : m₁.size .dataHeader = header.length := by
      rw [hheader.1, ← hbuffer]
      simp only [hm₁, Memory.after]
      exact Function.update_of_ne (by decide) _ _
    have hcells₁ (k : ℕ) (hk : k < header.length) : m₁.cell .dataHeader k = some header[k] := by
      rw [← hcells k hk]
      simp only [hm₁, Memory.after]
      rw [Function.update_of_ne (by decide)]
    have hstored (k : ℕ) (hk : k < headerSize header + STM_MAX_GENERIC_HEADER) :
        (((m₁.lay .dataPtr 0 zeros).lay .dataPtr 0 header).cell .dataPtr k).isSome := by
      refine isSome_lay 0 header ?_
      rw [cell_lay_zero (hlen.symm ▸ hk)]
      rfl
    have hshort : header.length ≤ zeros.length := by
      rw [hheader.1, hlen]
      exact Nat.le_add_left _ _
    have halloc : SafeRun (EventSafe argv) m
        [.alloc .dataPtr (headerSize header + STM_MAX_GENERIC_HEADER)] := ⟨trivial, trivial⟩
    have hfill := safeRun_fillRequest argv hshort (hsize₁.trans hlen.symm) hbuffer₁
      hcells₁ (transfer argv (headerSize header))
    rw [hheader.1] at hfill
    have htransfer := safeRun_transfer
      (m := (m₁.lay .dataPtr 0 zeros).lay .dataPtr 0 header)
      hheader haccepted hsize₁ (fun k hk => cell_lay_zero hk) hstored
    rw [if_pos rfl, safeRun_append, and_iff_right halloc, List.foldl_cons, List.foldl_nil, ← hm₁,
      hfill, htransfer]
    exact (and_iff_right rfl).symm

theorem safe_readwrite_iff (argv : List (List (BitVec 8))) (malloc : Bool) :
    CommandSafe argv (readwrite argv malloc) ↔ (7 ≤ argv.length → ReadwriteFits argv malloc) := by
  rw [readwrite]
  by_cases hargc : argv.length < 7
  · rw [if_pos hargc]
    exact iff_of_true trivial fun h => absurd h (not_le.mpr hargc)
  rw [if_neg hargc, imp_iff_right (not_lt.mp hargc)]
  set m : Memory Buffer (BitVec 8) :=
    noMemory.after (.alloc .dataHeader STM_MAX_GENERIC_HEADER : CommandAccess)
  have hargs : STM_MAX_GENERIC_COMMAND_LEN + STM_MAX_GENERIC_HEADER ≤ argv.length := not_lt.mp hargc
  have hrun (rest : List CommandAccess) : CommandSafe argv
      (.alloc .dataHeader STM_MAX_GENERIC_HEADER :: rest) ↔ SafeRun (EventSafe argv) m rest :=
    and_iff_right trivial
  dsimp only
  rw [hrun, safeRun_append, safeRun_convertArgs hargs]
  cases hout : (convertArgs argv .dataHeader STM_MAX_GENERIC_HEADER
      STM_MAX_GENERIC_COMMAND_LEN 0).2 with
  | none =>
    have hnot := convertArgs_none hout
    refine ⟨fun h => ⟨h.1, fun header hheader _ => absurd (fun k hk => ?_) hnot⟩,
      fun h => ⟨h.header, trivial⟩⟩
    rw [hheader.2 k (hheader.1.symm ▸ hk), List.length_singleton]
  | some header =>
    obtain ⟨hlen, hbytes, hmem⟩ := convertArgs_some (m := m) hout
    have hheader : IsHeader argv header := ⟨hlen, hbytes⟩
    have hcells (k : ℕ) (hk : k < header.length) :
        (m.lay .dataHeader 0 header).cell .dataHeader k = some header[k] :=
      cell_lay_zero hk
    have hbuffer : (m.lay .dataHeader 0 header).size .dataHeader = STM_MAX_GENERIC_HEADER := rfl
    have hloads : SafeRun (EventSafe argv) (m.lay .dataHeader 0 header)
        (loads .dataHeader 0 STM_MAX_GENERIC_HEADER) :=
      safeRun_loads_lay hlen.ge (le_refl _)
    have hmode : EventSafe argv (m.lay .dataHeader 0 header) (.arg 2) :=
      lt_of_lt_of_le (by decide) hargs
    dsimp only
    rw [hmem, safeRun_event, and_iff_right hmode, safeRun_append, and_iff_right hloads,
      foldl_loads, safeRun_readwriteData hheader rfl hbuffer hcells]
    constructor
    · rintro ⟨hfits, hdata⟩
      refine ⟨hfits, fun header' hheader' => ?_⟩
      have heq : header' = header := by
        refine List.ext_getElem (hheader'.1.trans hlen.symm) fun k hk hk' => ?_
        exact List.singleton_inj.mp ((hheader'.2 k hk).symm.trans (hbytes k hk'))
      rw [heq]
      exact hdata
    · intro h
      exact ⟨h.header, h.data header hheader⟩

end Readwrite

/-- A read that the driver answers prints as many bytes as were asked for. -/
structure PassthroughFits (argv : List (List (BitVec 8))) (env : CommandEnv) : Prop where
  input : Fits argv (argv.length - 2) 2 0 env.MOTOSH_PASSTHROUGH_SIZE
  count : AllBytes argv (argv.length - 2) 2 → 8 ≤ argv.length
  printed : AllBytes argv (argv.length - 2) 2 → ∀ dataSize, convertArg argv 6 = [0] →
    convertArg argv 7 = [dataSize] → passthroughTooLarge env 0 dataSize = false →
    env.ret = 0 → ∀ k < dataSize.toNat, k < argv.length - 2 ∨ (env.reply k).isSome

theorem safeRun_passthroughRequest {argv : List (List (BitVec 8))} {env : CommandEnv}
    {m : Memory Buffer (BitVec 8)} (hsize : m.size .ptData = env.MOTOSH_PASSTHROUGH_SIZE)
    (hsix : 6 ≤ env.MOTOSH_PASSTHROUGH_SIZE) (readWrite dataSize : BitVec 8) :
    SafeRun (EventSafe argv) m (passthroughRequest env readWrite dataSize) ↔
      (readWrite = 0 → passthroughTooLarge env 0 dataSize = false → env.ret = 0 →
        ∀ k < dataSize.toNat, (m.cell .ptData k).isSome ∨ (env.reply k).isSome) := by
  have hdone : SafeRun (EventSafe argv) m [.event .passthrough] := ⟨trivial, trivial⟩
  obtain ⟨hfills, hsizes, hcells⟩ := safeRun_fills hsize.ge
  rw [passthroughRequest]
  by_cases hread : readWrite = 0
  swap
  · refine iff_of_true ?_ fun h => absurd h hread
    rw [if_neg hread, List.append_nil]
    split_ifs
    · trivial
    · exact hdone
    · exact (safeRun_event _ _).mpr ⟨trivial, hfills⟩
  rw [imp_iff_right hread, if_pos hread, hread]
  cases hlarge : passthroughTooLarge env 0 dataSize with
  | true => exact iff_of_true trivial fun h => absurd h.symm Bool.false_ne_true
  | false =>
    rw [imp_iff_right rfl, if_neg Bool.false_ne_true]
    by_cases hret : env.ret = 0
    swap
    · rw [if_pos hret]
      exact iff_of_true hdone fun h => absurd h hret
    have hcount : dataSize.toNat ≤ env.MOTOSH_PASSTHROUGH_SIZE := by
      have hle : toUInt ((env.MOTOSH_PASSTHROUGH_SIZE : ℤ) - 1) ≤
          (env.MOTOSH_PASSTHROUGH_SIZE : ℤ) - 1 := by
        rw [toUInt]
        omega
      simp only [passthroughTooLarge, ↓reduceIte, decide_eq_false_iff_not, not_lt] at hlarge
      omega
    rw [imp_iff_right hret, if_neg (not_not.mpr hret), safeRun_event,
      and_iff_right (show EventSafe argv m .passthrough from trivial), safeRun_append,
      and_iff_right hfills, safeRun_loads]
    refine forall₂_congr fun k hk => ?_
    have hin : k < env.MOTOSH_PASSTHROUGH_SIZE := by omega
    rw [Nat.zero_add, hcells, hsizes, hsize, and_iff_right hin]
    exact or_congr_right (and_iff_right hin)

theorem safe_passthrough_iff (argv : List (List (BitVec 8))) (env : CommandEnv) :
    CommandSafe argv (passthrough argv env) ↔
      (6 ≤ argv.length → env.malloc = true → PassthroughFits argv env) := by
  rw [passthrough]
  by_cases hargc : argv.length < 6
  · rw [if_pos hargc]
    exact iff_of_true trivial fun h => absurd h (not_le.mpr hargc)
  rw [if_neg hargc, imp_iff_right (not_lt.mp hargc)]
  cases hmalloc : env.malloc with
  | false => exact iff_of_true trivial fun h => absurd h Bool.false_ne_true
  | true =>
    rw [imp_iff_right rfl, if_neg (by decide)]
    set m : Memory Buffer (BitVec 8) :=
      noMemory.after (.alloc .ptData env.MOTOSH_PASSTHROUGH_SIZE : CommandAccess)
    have hsize : m.size .ptData = env.MOTOSH_PASSTHROUGH_SIZE := rfl
    have hrun (rest : List CommandAccess) : CommandSafe argv
        (.alloc .ptData env.MOTOSH_PASSTHROUGH_SIZE :: rest) ↔ SafeRun (EventSafe argv) m rest :=
      and_iff_right trivial
    dsimp only
    rw [hrun, safeRun_append, safeRun_convertArgs (by omega), hsize]
    cases hout : (convertArgs argv .ptData (argv.length - 2) 2 0).2 with
    | none =>
      have hnot := convertArgs_none hout
      exact ⟨fun h => ⟨h.1, fun hall => absurd hall hnot, fun hall => absurd hall hnot⟩,
        fun h => ⟨h.input, trivial⟩⟩
    | some xs =>
      obtain ⟨hlen, hbytes, hmem⟩ := convertArgs_some (m := m) hout
      have hall : AllBytes argv (argv.length - 2) 2 := fun k hk => by
        rw [hbytes k (hlen.symm ▸ hk), List.length_singleton]
      have hcell (k : ℕ) : ((m.lay .ptData 0 xs).cell .ptData k).isSome ↔ k < xs.length := by
        by_cases hk : k < xs.length
        · rw [cell_lay_zero hk]
          exact iff_of_true rfl hk
        · rw [cell_lay_other (Or.inr (Or.inr (by omega)))]
          exact iff_of_false Bool.false_ne_true hk
      have hbyte (k : ℕ) (hk : k < xs.length) (g x : BitVec 8) :
          convertArg argv (2 + k) = [x] ↔ xs.getD k g = x := by
        rw [hbytes k hk, List.singleton_inj, List.getD_eq_getElem _ _ hk]
      dsimp only
      rw [hmem]
      constructor
      · rintro ⟨hfits, -, hfive, hrequest⟩
        have hsix : 5 < xs.length := (hcell 5).mp hfive.2
        have hlarge : 6 ≤ env.MOTOSH_PASSTHROUGH_SIZE := hfive.1
        refine ⟨hfits, fun _ => by omega, fun _ dataSize hread hcount hbound hret k hk => ?_⟩
        have hread' := (hbyte 4 (by omega) (env.garbage 4) _).mp hread
        have hcount' := (hbyte 5 hsix (env.garbage 5) _).mp hcount
        have hprinted := (safeRun_passthroughRequest (m := m.lay .ptData 0 xs) hsize hlarge _
          _).mp hrequest
        rw [hread', hcount'] at hprinted
        rw [← hlen, ← hcell]
        exact hprinted rfl hbound hret k hk
      · intro h
        have hcount := h.count hall
        have hsix : 6 ≤ env.MOTOSH_PASSTHROUGH_SIZE := by
          have hfits := h.input 5 (by omega) fun j hj => hall j (by omega)
          have hone := hall 5 (by omega)
          rcases hfits with hnil | hle
          · rw [hnil] at hone
            cases hone
          · omega
        have hload (k : ℕ) (hk : k < 6) : k < m.size .ptData ∧
            ((m.lay .ptData 0 xs).cell .ptData k).isSome :=
          ⟨by omega, (hcell k).mpr (by omega)⟩
        refine ⟨h.input, hload 4 (by decide), hload 5 (by decide),
          (safeRun_passthroughRequest (m := m.lay .ptData 0 xs) hsize hsix _ _).mpr ?_⟩
        intro hread hbound hret k hk
        rw [hcell, hlen]
        exact h.printed hall _ ((hbyte 4 (by omega) _ _).mpr hread)
          ((hbyte 5 (by omega) _ _).mpr rfl) hbound hret k hk

/-- The commands keep to their buffers exactly for arguments that fit, and with at least six
bytes for `passthrough`, whose driver stores what is printed behind them. -/
theorem commandsSafe_iff (argv : List (List (BitVec 8))) (env : CommandEnv) :
    CommandSafe argv (readwrite argv env.malloc) ∧ CommandSafe argv (passthrough argv env) ↔
      (7 ≤ argv.length → ReadwriteFits argv env.malloc) ∧
        (6 ≤ argv.length → env.malloc = true → PassthroughFits argv env) :=
  and_congr (safe_readwrite_iff argv env.malloc) (safe_passthrough_iff argv env)

/-- `motosh passthrough 00 d0 00 12`: register address and direction are missing. -/
def fourBytes : List (List (BitVec 8)) :=
  [[0x6d], [0x70], [0x30, 0x30], [0x64, 0x30], [0x30, 0x30], [0x31, 0x32]]

/-- `motosh readwrite 00 00 01 00 0101`: the last byte of the header comes with another. -/
def longHeader : List (List (BitVec 8)) :=
  [[0x6d], [0x72], [0x30, 0x30], [0x30, 0x30], [0x30, 0x31], [0x30, 0x30],
    [0x30, 0x31, 0x30, 0x31]]

theorem commands_leave_buffers :
    ¬ CommandSafe longHeader (readwrite longHeader true) ∧
      ¬ CommandSafe fourBytes (passthrough fourBytes ⟨256, true, fun _ => 0, 0, fun _ => some 0⟩) := by
  refine ⟨fun h => ?_, fun h => ?_⟩
  · have hfits := (safe_readwrite_iff _ _).mp h (by decide)
    have hthree := hfits.header 3 (by decide) (by decide)
    exact absurd hthree (by decide)
  · have hfits := (safe_passthrough_iff _ _).mp h (by decide) rfl
    have hall : AllBytes fourBytes (fourBytes.length - 2) 2 := by
      rw [AllBytes]
      decide
    exact absurd (hfits.count hall) (by decide)

end Cedric.Motosh
