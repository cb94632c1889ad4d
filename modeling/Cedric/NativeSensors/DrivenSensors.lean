import Cedric.NativeSensors.Listeners

/-!
# Which sensors are driven

In every run the listeners of a context are the enabled sensors that depend on it. The
driver of a hardware sensor agrees with them after every step exactly if each `activate` that
changes whether the sensor is needed finds the attribute of its driver, or the loopback
property set.
-/

namespace Cedric.NativeSensors

open Hub PointwiseFold Runs

variable {n : ℕ} {F : Type} {B : Board n} {K : Kernel n}

namespace Manager

variable {m m' : Manager n F}

theorem mem_listenersAfter {s x : Fin n} {enable : ℤ} {l : List (Fin n)} (hl : l.Nodup) :
    x ∈ listenersAfter s enable l ↔ if x = s then enable ≠ 0 else x ∈ l := by
  rw [listenersAfter]
  by_cases henable : enable ≠ 0
  · by_cases hs : s ∈ l
    · rcases eq_or_ne x s with rfl | hne
      · simp [henable, hs]
      · simp [henable, hs, hne]
    · rcases eq_or_ne x s with rfl | hne
      · simp [henable, hs]
      · simp [henable, hs, hne]
  · rw [if_neg henable]
    rcases eq_or_ne x s with rfl | hne
    · simp [henable, hl.not_mem_erase]
    · simp [hne, List.mem_erase_of_ne hne]

theorem nodup_listenersAfter {s : Fin n} {enable : ℤ} {l : List (Fin n)} (hl : l.Nodup) :
    (listenersAfter s enable l).Nodup := by
  rw [listenersAfter]
  split_ifs with henable hs
  · exact hl
  · exact List.nodup_append.mpr ⟨hl, List.nodup_singleton s, fun a ha b hb hab =>
      hs (List.mem_singleton.mp hb ▸ hab ▸ ha)⟩
  · exact hl.erase s

structure Activated (B : Board n) (K : Kernel n) (m m' : Manager n F) (s : Fin n) (enabled : ℤ) :
    Prop where
  enable : ∀ i, (m' i).enable = Function.update (fun i => (m i).enable) s enabled i
  delayNs : ∀ i, (m' i).delayNs = (m i).delayNs
  listener : ∀ i, (m' i).listener =
    if i ∈ (B.sensor s).depList then listenersAfter s enabled (m i).listener
    else (m i).listener
  mEnabled : ∀ i, (B.sensor i).isVirtual = false → (m' i).driver.mEnabled =
    if i ∈ (B.sensor s).depList ∧ K.Takes B i ∧ (enabled ≠ 0 ∨ (m' i).listener = []) then
      decide (enabled ≠ 0)
    else (m i).driver.mEnabled

def marked (m : Manager n F) (s : Fin n) (enabled : ℤ) : Manager n F :=
  Function.update m s { m s with enable := enabled }

def activateAll (B : Board n) (K : Kernel n) (m : Manager n F) (s : Fin n) (enabled : ℤ) :
    Manager n F :=
  (B.sensor s).depList.foldl (fun m i => m.activateDep B K s enabled i) (m.marked s enabled)

theorem marked_fields (m : Manager n F) (s : Fin n) (enabled : ℤ) (i : Fin n) :
    (m.marked s enabled i).enable = Function.update (fun i => (m i).enable) s enabled i ∧
      (m.marked s enabled i).delayNs = (m i).delayNs ∧
      (m.marked s enabled).driven i = m.driven i := by
  rcases eq_or_ne i s with rfl | hne
  · simp only [marked, driven, Function.update_self]
    exact ⟨trivial, trivial, trivial⟩
  · simp only [marked, driven, Function.update_of_ne hne]
    exact ⟨trivial, trivial, trivial⟩

theorem activateAll_settings (m : Manager n F) (s : Fin n) (enabled : ℤ) (i : Fin n) :
    (m.activateAll B K s enabled i).enable = (m.marked s enabled i).enable ∧
      (m.activateAll B K s enabled i).delayNs = (m.marked s enabled i).delayNs := by
  rw [activateAll]
  generalize m.marked s enabled = m
  induction (B.sensor s).depList generalizing m with
  | nil => exact ⟨rfl, rfl⟩
  | cons d deps ih =>
    have hstep := activateDep_settings (B := B) (K := K) m s enabled d i
    exact ⟨(ih _).1.trans hstep.1, (ih _).2.trans hstep.2⟩

theorem activateAll_driven (m : Manager n F) (s : Fin n) (enabled : ℤ) (i : Fin n) :
    (m.activateAll B K s enabled).driven i =
      if i ∈ (B.sensor s).depList then
        (listenersAfter s enabled (m i).listener,
          if K.Takes B i ∧ (enabled ≠ 0 ∨ listenersAfter s enabled (m i).listener = []) then
            decide (enabled ≠ 0)
          else (m i).driver.mEnabled)
      else m.driven i := by
  have hfold := activateDep_pointwise (F := F) (B := B) (K := K) s enabled
  have hmarked := (m.marked_fields s enabled i).2.2
  by_cases hi : i ∈ (B.sensor s).depList
  · rw [if_pos hi, activateAll, hfold.foldl_mem trivial (B.nodup s) hi, hmarked]
    rfl
  · rw [if_neg hi, activateAll, hfold.foldl_not_mem trivial hi, hmarked]

theorem activated (m : Manager n F) {handle : ℤ} {s : Fin n}
    (hs : getInfoByHandle n handle = some s) (enabled : ℤ) :
    Activated B K m (m.activate B K handle enabled).2 s enabled := by
  have hcall : (m.activate B K handle enabled).2 =
      if (B.sensor s).isVirtual then
        (m.activateAll B K s enabled).driverEnable B K s (enabled ≠ 0)
      else m.activateAll B K s enabled := by
    rw [activate, hs]
    rfl
  have hbooks : (m.activateAll B K s enabled).SameBooks (m.activate B K handle enabled).2 := by
    rw [hcall]
    split_ifs
    · exact sameBooks_driverEnable _ s _
    · exact .refl _
  have hlistener (i : Fin n) : ((m.activate B K handle enabled).2 i).listener =
      if i ∈ (B.sensor s).depList then listenersAfter s enabled (m i).listener
      else (m i).listener := by
    have hdriven := congrArg Prod.fst (m.activateAll_driven (B := B) (K := K) s enabled i)
    rw [hbooks.listener i]
    refine hdriven.trans ?_
    split_ifs <;> rfl
  refine ⟨fun i => ?_, fun i => ?_, hlistener, fun i hi => ?_⟩
  · rw [hbooks.enable, (m.activateAll_settings s enabled i).1, (m.marked_fields s enabled i).1]
  · rw [hbooks.delayNs, (m.activateAll_settings s enabled i).2, (m.marked_fields s enabled i).2.1]
  · have hsame : ((m.activate B K handle enabled).2 i).driver.mEnabled =
        (m.activateAll B K s enabled i).driver.mEnabled := by
      rw [hcall]
      split_ifs with hvirtual
      · have hne : i ≠ s := by
          rintro rfl
          exact Bool.false_ne_true (hi.symm.trans hvirtual)
        rw [driverEnable_eq, withDriver_of_ne hne]
      · rfl
    have hdriven := congrArg Prod.snd (m.activateAll_driven (B := B) (K := K) s enabled i)
    rw [hsame, hlistener i]
    refine hdriven.trans ?_
    by_cases hdep : i ∈ (B.sensor s).depList
    · simp only [hdep, ↓reduceIte, true_and]
    · simp only [hdep, ↓reduceIte, false_and]
      rfl

def Needed (B : Board n) (enable : Fin n → ℤ) (hw : Fin n) : Prop :=
  ∃ s, hw ∈ (B.sensor s).depList ∧ enable s ≠ 0

/-- The listeners of a context are the enabled sensors that depend on it, each once. -/
structure Books (B : Board n) (m : Manager n F) : Prop where
  nodup : ∀ hw, (m hw).listener.Nodup
  mem_iff : ∀ hw s, s ∈ (m hw).listener ↔ hw ∈ (B.sensor s).depList ∧ (m s).enable ≠ 0

theorem Books.nil_iff (h : m.Books B) (hw : Fin n) :
    (m hw).listener = [] ↔ ¬ Needed B (fun s => (m s).enable) hw := by
  rw [List.eq_nil_iff_forall_not_mem, Needed, not_exists]
  exact forall_congr' fun s => not_congr (h.mem_iff hw s)

theorem Books.activated {s : Fin n} {enabled : ℤ} (h : m.Books B)
    (hcall : Activated B K m m' s enabled) : m'.Books B where
  nodup hw := by
    rw [hcall.listener]
    split_ifs
    · exact nodup_listenersAfter (h.nodup hw)
    · exact h.nodup hw
  mem_iff hw x := by
    rw [hcall.listener, hcall.enable]
    by_cases hdep : hw ∈ (B.sensor s).depList
    · rw [if_pos hdep, mem_listenersAfter (h.nodup hw)]
      rcases eq_or_ne x s with rfl | hne
      · rw [if_pos rfl, Function.update_self]
        exact (and_iff_right hdep).symm
      · rw [if_neg hne, Function.update_of_ne hne]
        exact h.mem_iff hw x
    · rw [if_neg hdep]
      rcases eq_or_ne x s with rfl | hne
      · exact iff_of_false (fun hx => hdep ((h.mem_iff hw x).mp hx).1) fun hx => hdep hx.1
      · rw [Function.update_of_ne hne]
        exact h.mem_iff hw x

structure SameDrive (m m' : Manager n F) : Prop where
  enable : ∀ i, (m' i).enable = (m i).enable
  listener : ∀ i, (m' i).listener = (m i).listener
  mEnabled : ∀ i, (m' i).driver.mEnabled = (m i).driver.mEnabled

theorem Calm.sameDrive (h : m.Calm m') : m.SameDrive m' :=
  ⟨h.books.enable, h.books.listener, h.mEnabled⟩

theorem sameDrive_update {s : Fin n} {c : SensorContext n F} (henable : c.enable = (m s).enable)
    (hlistener : c.listener = (m s).listener) (hdriver : c.driver = (m s).driver) :
    m.SameDrive (Function.update m s c) := by
  refine ⟨fun i => ?_, fun i => ?_, fun i => ?_⟩
  all_goals
    rcases eq_or_ne i s with rfl | hne
    · rw [Function.update_self]
      first | assumption | rw [hdriver]
    · rw [Function.update_of_ne hne]

theorem SameDrive.foldl {step : Manager n F → Fin n → Manager n F}
    (hbooks : ∀ (m : Manager n F) i, m.SameBooks (step m i))
    (hdriven : ∀ m i j, (step m i j).driver.mEnabled = (m j).driver.mEnabled)
    (h : m.SameDrive m') (is : List (Fin n)) : m.SameDrive (is.foldl step m') := by
  induction is generalizing m' with
  | nil => exact h
  | cons i is ih =>
    exact ih ⟨fun j => ((hbooks m' i).enable j).trans (h.enable j),
      fun j => ((hbooks m' i).listener j).trans (h.listener j),
      fun j => (hdriven m' i j).trans (h.mEnabled j)⟩

theorem sameDrive_setDelay (m : Manager n F) (handle ns : ℤ) :
    m.SameDrive (m.setDelay B K handle ns).2 := by
  rw [setDelay]
  split
  · exact (Calm.refl m).sameDrive
  · rename_i s _
    have hsync (m' : Manager n F) (h : m.SameDrive m') :
        m.SameDrive ((B.sensor s).depList.foldl (fun m i => m.syncDelay B K i) m') :=
      h.foldl sameBooks_syncDelay (fun _ _ _ => syncDelay_mEnabled) _
    split_ifs
    · exact (Calm.refl m).sameDrive
    · exact hsync _ (sameDrive_update rfl rfl rfl)

theorem sameDrive_batch (m : Manager n F) (handle sampleNs latencyNs : ℤ) :
    m.SameDrive (m.batch B K handle sampleNs latencyNs).2 := by
  rw [batch]
  split_ifs
  · exact (Calm.refl m).sameDrive
  · split
    · exact (Calm.refl m).sameDrive
    · rename_i s _
      have hsync (m' : Manager n F) (h : m.SameDrive m') : m.SameDrive
          ((B.sensor s).depList.foldl (fun m i => (m.syncDelay B K i).syncLatency B K i) m') :=
        h.foldl (fun m i => (sameBooks_syncDelay m i).trans (sameBooks_syncLatency _ i))
          (fun _ _ _ => syncLatency_mEnabled.trans syncDelay_mEnabled) _
      exact hsync _ (sameDrive_update rfl rfl rfl)

/-- The change of a hardware sensor that depends on the sensor of the call goes through, or
what is driven stays. -/
theorem Activated.mEnabled_iff {s hw : Fin n} {enabled : ℤ} (hcall : Activated B K m m' s enabled)
    (hafter : m'.Books B) (hvirtual : (B.sensor hw).isVirtual = false)
    (hdep : hw ∈ (B.sensor s).depList) : (m' hw).driver.mEnabled = true ↔
      K.Takes B hw ∧ enabled ≠ 0 ∨
        ¬ (K.Takes B hw ∧
            (enabled ≠ 0 ∨ ¬ Needed B (Function.update (fun i => (m i).enable) s enabled) hw)) ∧
          (m hw).driver.mEnabled = true := by
  have hnil := hafter.nil_iff hw
  rw [funext hcall.enable] at hnil
  rw [hcall.mEnabled hw hvirtual, ← hnil]
  split_ifs with hchange
  · rw [decide_eq_true_iff]
    exact ⟨fun henabled => Or.inl ⟨hchange.2.1, henabled⟩, fun hor => hor.elim And.right
      fun hkept => absurd hchange.2 hkept.1⟩
  · have hkept : ¬ (K.Takes B hw ∧ (enabled ≠ 0 ∨ (m' hw).listener = [])) :=
      fun hboth => hchange ⟨hdep, hboth⟩
    exact ⟨fun hon => Or.inr ⟨hkept, hon⟩, fun hor => hor.elim
      (fun htakes => absurd ⟨htakes.1, Or.inl htakes.2⟩ hkept) And.right⟩

theorem Books.of_drive (h : m.Books B) (hsame : m.SameDrive m') : m'.Books B where
  nodup hw := by
    rw [hsame.listener]
    exact h.nodup hw
  mem_iff hw s := by
    rw [hsame.listener, hsame.enable]
    exact h.mem_iff hw s

end Manager

namespace PollContext

open Manager

variable [FloatOps F] {w : PollContext n F}

theorem next_drive (w : PollContext n F) (t : Step n) :
    (∃ K handle enabled s, t = .activate K handle enabled ∧ getInfoByHandle n handle = some s ∧
        Activated B K w.manager (w.next B t).manager s enabled) ∨
      (∀ K handle enabled s, t = .activate K handle enabled → getInfoByHandle n handle ≠ some s) ∧
        w.manager.SameDrive (w.next B t).manager := by
  by_cases hsets : t.Sets
  · cases t with
    | activate K handle enabled =>
      have hmanager : (w.next B (.activate K handle enabled)).manager =
          (w.manager.activate B K handle enabled).2 := by
        simp only [next, step, activate, writeWake]
        split_ifs <;> rfl
      rw [hmanager]
      cases hs : getInfoByHandle n handle with
      | some s => exact Or.inl ⟨K, handle, enabled, s, rfl, hs, activated _ hs enabled⟩
      | none =>
        refine Or.inr ⟨fun K' handle' enabled' s heq => ?_, ?_⟩
        · cases heq
          rw [hs]
          exact (Option.some_ne_none s).symm
        · rw [Manager.activate, hs]
          exact (Calm.refl _).sameDrive
    | setDelay K handle ns =>
      refine Or.inr ⟨fun K' handle' enabled s heq => ?_, sameDrive_setDelay _ handle ns⟩
      cases heq
    | batch K handle sampleNs latencyNs =>
      refine Or.inr ⟨fun K' handle' enabled s heq => ?_, sameDrive_batch _ handle _ _⟩
      cases heq
    | flush | arrive | fault | pollEvents | scan | poll | pollError => exact absurd hsets id
  · refine Or.inr ⟨fun K handle enabled s heq => ?_, (next_calm hsets w).sameDrive⟩
    rw [heq] at hsets
    exact absurd trivial hsets

theorem books_next (h : w.manager.Books B) (t : Step n) : (w.next B t).manager.Books B := by
  rcases w.next_drive (B := B) t with ⟨K, handle, enabled, s, -, -, hcall⟩ | ⟨-, hsame⟩
  · exact h.activated hcall
  · exact h.of_drive hsame

omit [FloatOps F] in
theorem books_start (memory : Fin n → ℕ → InputEvent) (zero : F) :
    (start memory zero).manager.Books B where
  nodup _ := List.nodup_nil
  mem_iff _ _ := iff_of_false List.not_mem_nil fun h => h.2 rfl

def Driven (B : Board n) (w : PollContext n F) : Prop :=
  ∀ hw, (B.sensor hw).isVirtual = false →
    ((w.manager hw).driver.mEnabled = true ↔ Needed B (fun s => (w.manager s).enable) hw)

/-- An `activate` that changes whether a hardware sensor is needed can set its driver. -/
def Effective (B : Board n) (w : PollContext n F) : Step n → Prop
  | .activate K handle enabled => ∀ s, getInfoByHandle n handle = some s →
    ∀ hw, (B.sensor hw).isVirtual = false →
      ¬ (Needed B (fun s => (w.manager s).enable) hw ↔
        Needed B (Function.update (fun s => (w.manager s).enable) s enabled) hw) →
      K.Takes B hw
  | _ => True

omit [FloatOps F] in
theorem needed_of_not_mem {enable : Fin n → ℤ} {s hw : Fin n} (h : hw ∉ (B.sensor s).depList)
    (enabled : ℤ) : Needed B (Function.update enable s enabled) hw ↔ Needed B enable hw := by
  refine exists_congr fun x => and_congr_right fun hx => ?_
  have hne : x ≠ s := by
    rintro rfl
    exact h hx
  rw [Function.update_of_ne hne]

omit [FloatOps F] in
theorem needed_of_needed_zero {enable : Fin n → ℤ} {s hw : Fin n}
    (h : Needed B (Function.update enable s 0) hw) : Needed B enable hw := by
  obtain ⟨x, hx, henable⟩ := h
  rcases eq_or_ne x s with rfl | hne
  · rw [Function.update_self] at henable
    exact absurd rfl henable
  · rw [Function.update_of_ne hne] at henable
    exact ⟨x, hx, henable⟩

theorem driven_next_iff (hbooks : w.manager.Books B) (h : w.Driven B) (t : Step n) :
    (w.next B t).Driven B ↔ w.Effective B t := by
  rcases w.next_drive (B := B) t with ⟨K, handle, enabled, s, rfl, hs, hcall⟩ | ⟨hother, hsame⟩
  · have hafter := hbooks.activated hcall
    have heffective : w.Effective B (.activate K handle enabled) ↔
        ∀ hw, (B.sensor hw).isVirtual = false →
          ¬ (Needed B (fun s => (w.manager s).enable) hw ↔
            Needed B (Function.update (fun s => (w.manager s).enable) s enabled) hw) →
          K.Takes B hw := by
      refine ⟨fun heff => heff s hs, fun heff s' hs' => ?_⟩
      cases hs.symm.trans hs'
      exact heff
    rw [heffective]
    refine forall_congr' fun hw => forall_congr' fun hvirtual => ?_
    have hbefore := h hw hvirtual
    rw [funext hcall.enable]
    by_cases hdep : hw ∈ (B.sensor s).depList
    · rw [hcall.mEnabled_iff hafter hvirtual hdep, hbefore]
      by_cases hzero : enabled = 0
      · have hmono : Needed B (Function.update (fun s => (w.manager s).enable) s enabled) hw →
            Needed B (fun s => (w.manager s).enable) hw := by
          rw [hzero]
          exact needed_of_needed_zero
        generalize Needed B (fun s => (w.manager s).enable) hw = before at hmono ⊢
        generalize Needed B (Function.update (fun s => (w.manager s).enable) s enabled) hw = after
          at hmono ⊢
        by_cases hafterwards : after
        · simp [hzero, hafterwards, hmono hafterwards]
        · by_cases htakes : K.Takes B hw
          · simp [hzero, hafterwards, htakes]
          · simp [hzero, hafterwards, htakes]
      · have hneeded : Needed B (Function.update (fun s => (w.manager s).enable) s enabled) hw :=
          ⟨s, hdep, by rwa [Function.update_self]⟩
        simp only [ne_eq, hzero, not_false_eq_true, and_true, true_or, hneeded, iff_true]
        tauto
    · have hkept := hcall.mEnabled hw hvirtual
      rw [if_neg fun hchange => hdep hchange.1] at hkept
      rw [hkept, needed_of_not_mem hdep]
      exact iff_of_true hbefore fun hchanged => absurd Iff.rfl hchanged
  · have hright : w.Effective B t := by
      cases t with
      | activate K handle enabled => exact fun s hs => absurd hs (hother K handle enabled s rfl)
      | setDelay | batch | flush | arrive | fault | pollEvents | scan | poll | pollError =>
        exact trivial
    refine iff_of_true (fun hw hvirtual => ?_) hright
    rw [hsame.mEnabled, funext hsame.enable]
    exact h hw hvirtual

theorem driven_iff (B : Board n) (memory : Fin n → ℕ → InputEvent) (zero : F)
    (run : List (Step n)) :
    Along (next B) (fun w t => (w.next B t).Driven B) (start memory zero) run ↔
      Along (next B) (Effective B) (start memory zero) run := by
  refine along_congr (fun w => w.manager.Books B ∧ w.Driven B)
    (fun w t h => driven_next_iff h.1 h.2 t) (fun w t h hdriven => ⟨books_next h.1 t, hdriven⟩)
    ⟨books_start memory zero, fun hw _ => ?_⟩ run
  exact iff_of_false Bool.false_ne_true fun hneeded => hneeded.choose_spec.2 rfl

end PollContext
end Cedric.NativeSensors
