import Cedric.Lib.Balance
import Cedric.NativeSensors.Wakeups

/-!
# The answers to `flush`

`SensorBase::flush` notes that the number of `FLUSH_COMPLETE` events should be the number of
calls of `flush`. For a board as `getDataInfo` leaves it, an accepted flush is answered by one
event of `pollEvents`, is on its way, or was lost: with the metadata that a read takes from a
sensor that is not enabled, or with the events of a call that fails (`flush_accounts`).
-/

namespace Cedric.NativeSensors

open Balance Hub PointwiseFold Runs

variable {n : ℕ} {F : Type} {B : Board n} {K : Kernel n}

theorem getInfoByHandle_eq_some_iff {handle : ℤ} {s : Fin n} :
    getInfoByHandle n handle = some s ↔ handle = SENSORS_HANDLE s := by
  rw [getInfoByHandle]
  constructor
  · intro hfind
    have hs := List.find?_some hfind
    exact (of_decide_eq_true hs).symm
  · rintro rfl
    cases hfind : (List.finRange n).find? fun i : Fin n => SENSORS_HANDLE i = SENSORS_HANDLE s with
    | none => exact absurd (List.find?_eq_none.mp hfind s (List.mem_finRange s)) (by simp)
    | some t =>
      have hfound := List.find?_some hfind
      have ht : SENSORS_HANDLE t = SENSORS_HANDLE s := of_decide_eq_true hfound
      simp only [SENSORS_HANDLE] at ht
      exact congrArg some (Fin.ext (by omega))

def metas (i : Fin n) (data : List (SensorsEvent n F)) : ℕ :=
  data.countP fun
    | .metaData s => s = i
    | .distance _ _ => false

@[simp] theorem metas_append (i : Fin n) (data data' : List (SensorsEvent n F)) :
    metas i (data ++ data') = metas i data + metas i data' := List.countP_append ..

@[simp] theorem metas_nil (i : Fin n) : metas i ([] : List (SensorsEvent n F)) = 0 := rfl

@[simp] theorem metas_meta (i s : Fin n) :
    metas i [(.metaData s : SensorsEvent n F)] = if s = i then 1 else 0 := by
  simp [metas, List.countP_cons]

@[simp] theorem metas_distance (i s : Fin n) (ds : List F) :
    metas i (ds.map (.distance s)) = 0 := by
  simp [metas, List.countP_map, Function.comp_def]

namespace SensorBase

def TakesMetadata (d : SensorBase F) (count : ℤ) : Prop :=
  1 ≤ count ∧ d.mHasPendingEvent = false ∧ d.mHasPendingMetadata ≠ 0

instance (d : SensorBase F) (count : ℤ) : Decidable (d.TakesMetadata count) :=
  inferInstanceAs (Decidable (_ ∧ _ ∧ _))

variable [FloatOps F] {d : SensorBase F} {i : Fin n} {count : ℤ}

theorem readEvents_of_takes (h : d.TakesMetadata count) : d.readEvents i count =
    (if d.mEnabled then ⟨1, [.metaData i]⟩ else ⟨0, []⟩,
      { d with mHasPendingMetadata := d.mHasPendingMetadata - 1 }) := by
  obtain ⟨hcount, hevent, hmeta⟩ := h
  rw [readEvents, if_neg (by omega), if_neg (by rw [hevent]; exact Bool.false_ne_true),
    if_pos hmeta]

theorem readEvents_of_not_takes (h : ¬ d.TakesMetadata count) (j : Fin n) :
    (d.readEvents i count).2.mHasPendingMetadata = d.mHasPendingMetadata ∧
      metas j (d.readEvents i count).1.data = 0 := by
  rw [readEvents]
  by_cases hcount : count < 1
  · rw [if_pos hcount]
    exact ⟨rfl, rfl⟩
  · rw [if_neg hcount]
    by_cases hevent : d.mHasPendingEvent = true
    · rw [if_pos hevent]
      split_ifs
      · exact ⟨rfl, metas_distance j i [d.mPendingEvent]⟩
      · exact ⟨rfl, rfl⟩
    · have hmeta : ¬ d.mHasPendingMetadata ≠ 0 := fun hmeta =>
        h ⟨by omega, Bool.eq_false_iff.mpr hevent, hmeta⟩
      rw [if_neg hevent, if_neg hmeta]
      split
      · exact ⟨rfl, rfl⟩
      · exact ⟨rfl, metas_distance ..⟩

theorem readEvents_of_retry (h : (d.readEvents i count).1.ret = -EAGAIN ∨
    (d.readEvents i count).1.ret = - EINTR) : ¬ (d.readEvents i count).2.TakesMetadata count := by
  intro htakes
  have hcount : ¬ count < 1 := by
    have hpos := htakes.1
    omega
  rw [readEvents, if_neg hcount] at h htakes
  have hone : ∀ data : List (SensorsEvent n F),
      ¬ ((⟨1, data⟩ : ReadResult n F).ret = -EAGAIN ∨
        (⟨1, data⟩ : ReadResult n F).ret = - EINTR) := fun _ => by
    change ¬ ((1 : ℤ) = -EAGAIN ∨ (1 : ℤ) = - EINTR)
    decide
  have hnone : ∀ data : List (SensorsEvent n F),
      ¬ ((⟨0, data⟩ : ReadResult n F).ret = -EAGAIN ∨
        (⟨0, data⟩ : ReadResult n F).ret = - EINTR) := fun _ => by
    change ¬ ((0 : ℤ) = -EAGAIN ∨ (0 : ℤ) = - EINTR)
    decide
  by_cases hevent : d.mHasPendingEvent = true
  · rw [if_pos hevent] at h
    split_ifs at h
    · exact hone _ h
    · exact hnone _ h
  · rw [if_neg hevent] at h htakes
    by_cases hmeta : d.mHasPendingMetadata ≠ 0
    · rw [if_pos hmeta] at h
      split_ifs at h
      · exact hone _ h
      · exact hnone _ h
    · rw [if_neg hmeta] at htakes
      have hkept : ∀ e : SensorBase F, e.mHasPendingMetadata = d.mHasPendingMetadata →
          ¬ e.TakesMetadata count := fun e he htakes => hmeta (he ▸ htakes.2.2)
      revert htakes
      split
      · exact hkept _ rfl
      · exact hkept _ rfl

end SensorBase

namespace Manager

variable {m : Manager n F}

/-- A part of a driver that the settings leave alone. -/
structure Untouched {ρ : Type} (see : SensorBase F → ρ) : Prop where
  enable : ∀ {n : ℕ} (p : Loopback) (K : Kernel n) (i : Fin n) flags d,
    see (d.enable p K i flags) = see d
  setDelay : ∀ {n : ℕ} (p : Loopback) (K : Kernel n) (i : Fin n) ns d,
    see (d.setDelay p K i ns) = see d
  setLatency : ∀ {n : ℕ} (K : Kernel n) (i : Fin n) ns d, see (d.setLatency K i ns) = see d

theorem untouched_metadata : Untouched (SensorBase.mHasPendingMetadata (F := F)) where
  enable p K i flags d := by
    rw [SensorBase.enable]
    split_ifs
    · rfl
    · split <;> rfl
    · rfl
    · rfl
  setDelay p K i ns d := by
    rw [SensorBase.setDelay]
    split_ifs <;> rfl
  setLatency K i ns d := by
    rw [SensorBase.setLatency]
    split_ifs <;> rfl

section Untouched
variable {ρ : Type} {see : SensorBase F → ρ}

def SameSeen (see : SensorBase F → ρ) (m m' : Manager n F) : Prop :=
  ∀ i, see (m' i).driver = see (m i).driver

theorem SameSeen.refl (m : Manager n F) : SameSeen see m m := fun _ => rfl

theorem SameSeen.trans {m' m'' : Manager n F} (h : SameSeen see m m') (h' : SameSeen see m' m'') :
    SameSeen see m m'' := fun i => (h' i).trans (h i)

theorem sameSeen_update {i : Fin n} {c : SensorContext n F}
    (h : see c.driver = see (m i).driver) : SameSeen see m (Function.update m i c) := by
  intro j
  rcases eq_or_ne j i with rfl | hne
  · rw [Function.update_self]
    exact h
  · rw [Function.update_of_ne hne]

theorem sameSeen_foldl {step : Manager n F → Fin n → Manager n F}
    (h : ∀ (m : Manager n F) i, SameSeen see m (step m i)) (is : List (Fin n))
    (m : Manager n F) : SameSeen see m (is.foldl step m) := by
  induction is generalizing m with
  | nil => exact .refl m
  | cons i is ih => exact (h m i).trans (ih _)

variable (hsee : Untouched see)
include hsee

theorem Untouched.driverEnable (m : Manager n F) (i : Fin n) (flags : Bool) :
    SameSeen see m (m.driverEnable B K i flags) := by
  rw [driverEnable_eq]
  exact sameSeen_update (hsee.enable ..)

theorem Untouched.sync (m : Manager n F) (i : Fin n) : SameSeen see m (m.syncDelay B K i) := by
  rcases syncDelay_cases (B := B) (K := K) m i with ⟨-, hsame⟩ | ⟨first, rest, -, hset⟩
  · rw [hsame]
    exact .refl m
  · rw [hset]
    exact sameSeen_update (hsee.setDelay ..)

theorem Untouched.syncBoth (m : Manager n F) (i : Fin n) :
    SameSeen see m ((m.syncDelay B K i).syncLatency B K i) := by
  have hdelay := hsee.sync (B := B) (K := K) m i
  rcases syncLatency_cases (B := B) (K := K) (m.syncDelay B K i) i with hsame | ⟨ns, hset⟩
  · rw [hsame]
    exact hdelay
  · rw [hset]
    exact hdelay.trans (sameSeen_update (hsee.setLatency ..))

theorem Untouched.activateDep (m : Manager n F) (s : Fin n) (enabled : ℤ) (i : Fin n) :
    SameSeen see m (m.activateDep B K s enabled i) := by
  have hregister : SameSeen see m (m.registerListener i s) := by
    rw [registerListener]
    split_ifs
    · exact .refl m
    · exact sameSeen_update rfl
  have hunregister : SameSeen see m (m.unregisterListener i s) := sameSeen_update rfl
  simp only [Manager.activateDep]
  split_ifs
  · exact (hregister.trans (hsee.syncBoth _ i)).trans (hsee.driverEnable _ i true)
  · exact (hunregister.trans (hsee.syncBoth _ i)).trans (hsee.driverEnable _ i false)
  · exact hunregister.trans (hsee.syncBoth _ i)
  · exact hsee.driverEnable m i false
  · exact absurd ‹¬ (m i).listener = []› ‹¬ (m i).listener ≠ []›

theorem Untouched.activate (m : Manager n F) (handle enabled : ℤ) :
    SameSeen see m (m.activate B K handle enabled).2 := by
  rw [Manager.activate]
  split
  · exact .refl m
  · rename_i s _
    have hmark : SameSeen see m (Function.update m s { m s with enable := enabled }) :=
      sameSeen_update rfl
    have hloop := hmark.trans (sameSeen_foldl
      (fun m i => hsee.activateDep (B := B) (K := K) m s enabled i) (B.sensor s).depList _)
    dsimp only
    split_ifs
    · exact hloop.trans (hsee.driverEnable _ s _)
    · exact hloop

theorem Untouched.setDelays (m : Manager n F) (handle ns : ℤ) :
    SameSeen see m (m.setDelay B K handle ns).2 := by
  rw [Manager.setDelay]
  split
  · exact .refl m
  · rename_i s _
    have hsync (m' : Manager n F) (h : SameSeen see m m') :
        SameSeen see m ((B.sensor s).depList.foldl (fun m i => m.syncDelay B K i) m') :=
      h.trans (sameSeen_foldl hsee.sync _ _)
    split_ifs
    · exact .refl m
    · exact hsync _ (sameSeen_update rfl)

theorem Untouched.batch (m : Manager n F) (handle sampleNs latencyNs : ℤ) :
    SameSeen see m (m.batch B K handle sampleNs latencyNs).2 := by
  rw [Manager.batch]
  split_ifs
  · exact .refl m
  · split
    · exact .refl m
    · rename_i s _
      have hsync (m' : Manager n F) (h : SameSeen see m m') : SameSeen see m
          ((B.sensor s).depList.foldl (fun m i => (m.syncDelay B K i).syncLatency B K i) m') :=
        h.trans (sameSeen_foldl hsee.syncBoth _ _)
      exact hsync _ (sameSeen_update rfl)

end Untouched

def pendingMetadata (m : Manager n F) (i : Fin n) : ℕ := (m i).driver.mHasPendingMetadata

theorem flush_eq {s : Fin n} (h : (B.sensor s).isVirtual = false) (m : Manager n F) :
    m.flush B K (SENSORS_HANDLE s) = m.driverFlush B K s := by
  have hs : getInfoByHandle n (SENSORS_HANDLE s) = some s := getInfoByHandle_eq_some_iff.mpr rfl
  rw [flush, hs]
  simp only [B.hardware s h, flushAll, h, Bool.false_eq_true, ↓reduceIte]
  by_cases hzero : (m.driverFlush B K s).1 = 0
  · simp only [hzero, ne_eq, not_true_eq_false, ↓reduceIte]
    exact Prod.ext hzero.symm rfl
  · simp only [hzero, ne_eq, not_false_eq_true, ↓reduceIte]

theorem driverFlush_pendingMetadata (m : Manager n F) (s i : Fin n) :
    (m.driverFlush B K s).2.pendingMetadata i =
      m.pendingMetadata i + if s = i ∧ (m.driverFlush B K s).1 = 0 then 1 else 0 := by
  have hrefused : ¬ (-EINVAL = 0 ∨ (-1 : ℤ) = 0) := by decide
  rcases eq_or_ne i s with rfl | hne
  · simp only [pendingMetadata, driverFlush, Function.update_self, true_and]
    rw [SensorBase.flush]
    split_ifs with h1 h2 h3 h4
    · exact absurd (Or.inl h2) hrefused
    · rfl
    · exact absurd (Or.inr h4) hrefused
    · rfl
    · rfl
    · exact absurd rfl ‹¬ _›
  · simp only [pendingMetadata, driverFlush, Function.update_of_ne hne, hne.symm, false_and,
      ↓reduceIte, Nat.add_zero]

theorem flush_pendingMetadata (hhardware : ∀ i, (B.sensor i).isVirtual = false)
    (m : Manager n F) (handle : ℤ) (i : Fin n) : (m.flush B K handle).2.pendingMetadata i =
      m.pendingMetadata i +
        if handle = SENSORS_HANDLE i ∧ (m.flush B K handle).1 = 0 then 1 else 0 := by
  cases hs : getInfoByHandle n handle with
  | none =>
    have hflush : m.flush B K handle = (-EINVAL, m) := by rw [flush, hs]
    have hne : ¬ handle = SENSORS_HANDLE i := fun hi => by
      rw [getInfoByHandle_eq_some_iff.mpr hi] at hs
      cases hs
    rw [hflush, if_neg fun h => hne h.1]
    rfl
  | some s =>
    obtain rfl := getInfoByHandle_eq_some_iff.mp hs
    have hown : SENSORS_HANDLE s = SENSORS_HANDLE i ↔ s = i := by
      simp only [SENSORS_HANDLE]
      exact ⟨fun h => Fin.ext (by omega), fun h => by rw [h]⟩
    rw [flush_eq (hhardware s), driverFlush_pendingMetadata]
    simp only [hown]

variable [FloatOps F] {count : ℤ}

/-- What a read of the sensor `i` loses of the pending flushes of `j`. -/
def lostByRead (m : Manager n F) (i : Fin n) (count : ℤ) (j : Fin n) : ℕ :=
  if j = i ∧ (m i).driver.TakesMetadata count ∧
    ¬ ((m i).enable ≠ 0 ∧ (m i).driver.mEnabled = true) then 1 else 0

theorem readEvents_pendingMetadata (m : Manager n F) (i : Fin n) (count : ℤ) (j : Fin n) :
    metas j (m.readEvents i count).1.data + (m.readEvents i count).2.pendingMetadata j +
      m.lostByRead i count j = m.pendingMetadata j := by
  by_cases htakes : (m i).driver.TakesMetadata count
  · have hpos : (m i).driver.mHasPendingMetadata ≠ 0 := htakes.2.2
    have hread := SensorBase.readEvents_of_takes (i := i) htakes
    have hret : ((m i).driver.readEvents i count).1.ret =
        if (m i).driver.mEnabled then 1 else 0 := by
      rw [hread]
      split_ifs <;> rfl
    rw [readEvents_once (by rw [hret]; split_ifs <;> decide) (by rw [hret]; split_ifs <;> decide),
      hread]
    rcases eq_or_ne j i with rfl | hne
    · simp only [pendingMetadata, Function.update_self, lostByRead, htakes, true_and]
      by_cases hboth : (m j).enable ≠ 0 ∧ (m j).driver.mEnabled = true
      · rw [if_pos hboth.1, if_pos hboth.2, if_neg (not_not.mpr hboth), metas_meta, if_pos rfl]
        omega
      · have hnone : metas j (if (m j).enable ≠ 0 then
            if (m j).driver.mEnabled then ⟨1, [.metaData j]⟩ else ⟨0, []⟩
              else ⟨0, []⟩ : ReadResult n F).data = 0 := by
          split_ifs with henable henabled
          · exact absurd ⟨henable, henabled⟩ hboth
          · rfl
          · rfl
        rw [hnone, if_pos hboth]
        omega
    · have hnone : metas j (if (m i).enable ≠ 0 then
          if (m i).driver.mEnabled then ⟨1, [.metaData i]⟩ else ⟨0, []⟩
            else ⟨0, []⟩ : ReadResult n F).data = 0 := by
        split_ifs
        · rw [metas_meta, if_neg hne.symm]
        · rfl
        · rfl
      simp only [hnone, pendingMetadata, Function.update_of_ne hne, lostByRead, hne, false_and,
        ↓reduceIte]
      omega
  · have honce := SensorBase.readEvents_of_not_takes (i := i) htakes j
    have hlost : m.lostByRead i count j = 0 := if_neg fun h => htakes h.2.1
    have hkept : ∀ r : ReadResult n F × SensorBase F, metas j r.1.data = 0 →
        r.2.mHasPendingMetadata = (m i).driver.mHasPendingMetadata →
        metas j (if (m i).enable ≠ 0 then r.1 else ⟨0, []⟩).data +
          pendingMetadata (Function.update m i { m i with driver := r.2 }) j =
            m.pendingMetadata j := by
      intro r hdata hsame
      have hnone : metas j (if (m i).enable ≠ 0 then r.1 else ⟨0, []⟩).data = 0 := by
        split_ifs
        · exact hdata
        · rfl
      rw [hnone, Nat.zero_add]
      have hseen : SameSeen SensorBase.mHasPendingMetadata m
          (Function.update m i { m i with driver := r.2 }) := sameSeen_update hsame
      exact hseen j
    rw [hlost, Nat.add_zero]
    simp only [readEvents, driverRead]
    by_cases hretry : ((m i).driver.readEvents i count).1.ret = -EAGAIN ∨
        ((m i).driver.readEvents i count).1.ret = - EINTR
    · have htwice := SensorBase.readEvents_of_not_takes (i := i)
        (SensorBase.readEvents_of_retry hretry) j
      rw [if_pos hretry]
      exact hkept _ htwice.2 (htwice.1.trans honce.1)
    · rw [if_neg hretry]
      exact hkept _ honce.2 honce.1

end Manager

namespace PollContext

open Manager

def accepted (i : Fin n) : Output n F → ℕ
  | .flushed handle ret => if handle = SENSORS_HANDLE i ∧ ret = 0 then 1 else 0
  | .returned _ _ => 0

def answered (i : Fin n) : Output n F → ℕ
  | .flushed _ _ => 0
  | .returned ret data => if 0 ≤ ret then metas i data else 0

def Thread.data : Thread n F → List (SensorsEvent n F)
  | .outside => []
  | .scanning _ _ data | .polling _ data => data

def waiting (i : Fin n) (w : PollContext n F) : ℕ :=
  w.manager.pendingMetadata i + metas i (Thread.data w.thread)

variable [FloatOps F]

def lostInRound (i : Fin n) (w : PollContext n F) (j : ℕ) (count : ℤ)
    (data : List (SensorsEvent n F)) : ℕ :=
  if h : j < n then
    if count ≠ 0 ∧ (w.revents ⟨j, h⟩ || (w.manager ⟨j, h⟩).driver.hasPendingEvents) ∧
        ¬ w.manager.spins ⟨j, h⟩ count then
      w.manager.lostByRead ⟨j, h⟩ count i +
        if (w.manager.readEvents ⟨j, h⟩ count).1.ret < 0 then
          metas i data + metas i (w.manager.readEvents ⟨j, h⟩ count).1.data
        else 0
    else 0
  else 0

def lost (i : Fin n) (w : PollContext n F) : Step n → ℕ
  | .scan =>
    match w.thread with
    | .scanning j count data => w.lostInRound i j count data
    | _ => 0
  | .pollError err =>
    match w.thread with
    | .polling _ data => if 0 ≤ -err then 0 else metas i data
    | _ => 0
  | _ => 0

variable {w : PollContext n F}

theorem balances_scan (i : Fin n) (w : PollContext n F) :
    Balances (step B) (waiting i) (accepted i) (answered i) (lost i) w .scan := by
  rw [Balances]
  change total (answered i) w.scan.2 + waiting i w.scan.1 + lost i w .scan =
    waiting i w + total (accepted i) w.scan.2
  rw [PollContext.scan, lost, waiting, waiting]
  cases hthread : w.thread with
  | outside => simp [hthread, Thread.data]
  | polling count data => simp [hthread, Thread.data]
  | scanning j count data =>
    dsimp only
    by_cases hround : count ≠ 0 ∧ j < n
    · simp only [lostInRound, dif_pos hround.2, ne_eq, hround.1,
        not_false_eq_true, true_and]
      by_cases hready : (w.revents ⟨j, hround.2⟩ ||
          (w.manager ⟨j, hround.2⟩).driver.hasPendingEvents) = true
      · have hread := w.manager.readEvents_pendingMetadata ⟨j, hround.2⟩ count i
        rw [if_pos hready]
        by_cases hspins : w.manager.spins ⟨j, hround.2⟩ count = true
        · rw [if_pos hspins, if_neg fun hboth => hboth.2 hspins, hthread]
          simp [Thread.data]
        · rw [if_neg hspins, if_pos (And.intro hready hspins)]
          by_cases hfail : (w.manager.readEvents ⟨j, hround.2⟩ count).1.ret < 0
          · simp only [hfail, ↓reduceIte, total_singleton, answered, accepted, not_le.mpr hfail,
              Thread.data, metas_nil]
            omega
          · simp only [hfail, ↓reduceIte, total_nil, Thread.data, metas_append]
            omega
      · simp [hready, Thread.data]
    · have hnone : w.lostInRound i j count data = 0 := by
        rw [lostInRound]
        by_cases hlast : j < n
        · rw [dif_pos hlast, if_neg fun hready => hround ⟨hready.1, hlast⟩]
        · rw [dif_neg hlast]
      rw [dif_neg hround, hnone]
      split_ifs with hcount
      · simp [Thread.data]
      · simp only [total_singleton, answered, Int.natCast_nonneg, ↓reduceIte, Thread.data,
          metas_nil, accepted]
        omega

theorem balances_poll (i : Fin n) (w : PollContext n F) :
    Balances (step B) (waiting i) (accepted i) (answered i) (lost i) w .poll := by
  rw [Balances]
  change total (answered i) w.poll.2 + waiting i w.poll.1 + 0 =
    waiting i w + total (accepted i) w.poll.2
  rw [PollContext.poll, waiting, waiting]
  cases hthread : w.thread with
  | outside => simp [hthread, Thread.data]
  | scanning j count data => simp [hthread, Thread.data]
  | polling count data =>
    dsimp only
    split_ifs
    · simp [Thread.data]
    · simp only [total_singleton, answered, Int.natCast_nonneg, ↓reduceIte, Thread.data,
        metas_nil, accepted]
      omega
    · simp [hthread, Thread.data]

omit [FloatOps F] in
theorem balances_same (i : Fin n) {m : Manager n F}
    (h : SameSeen SensorBase.mHasPendingMetadata w.manager m) :
    waiting i { w with manager := m } = waiting i w := by
  rw [waiting, waiting, pendingMetadata, h i]
  rfl

theorem balances (hhardware : ∀ i, (B.sensor i).isVirtual = false) (i : Fin n)
    (w : PollContext n F) (t : Step n) :
    Balances (step B) (waiting i) (accepted i) (answered i) (lost i) w t := by
  cases t with
  | activate K handle enabled =>
    have hsame := balances_same (w := w) i
      (untouched_metadata.activate (B := B) (K := K) w.manager handle enabled)
    simp only [Balances, step, activate, lost, total_nil, Nat.add_zero, Nat.zero_add]
    split_ifs
    · exact hsame
    · exact hsame
  | setDelay K handle ns =>
    simp only [Balances, step, lost, total_nil, Nat.add_zero, Nat.zero_add]
    exact balances_same i (untouched_metadata.setDelays w.manager handle ns)
  | batch K handle sampleNs latencyNs =>
    simp only [Balances, step, lost, total_nil, Nat.add_zero, Nat.zero_add]
    exact balances_same i (untouched_metadata.batch w.manager handle _ _)
  | flush K handle =>
    have hflush := flush_pendingMetadata (K := K) hhardware w.manager handle i
    simp only [Balances, step, flush, lost, total_singleton, answered, accepted, waiting,
      writeWake, hflush]
    omega
  | arrive j es =>
    simp only [Balances, step, lost, total_nil, Nat.add_zero, Nat.zero_add]
    exact balances_same i (sameSeen_update rfl)
  | fault j f =>
    simp only [Balances, step, lost, total_nil, Nat.add_zero, Nat.zero_add]
    exact balances_same i (sameSeen_update rfl)
  | pollEvents count =>
    cases hthread : w.thread <;>
      simp [Balances, step, hthread, lost, waiting, Thread.data]
  | scan => exact balances_scan i w
  | poll => exact balances_poll i w
  | pollError err =>
    cases hthread : w.thread with
    | outside => simp [Balances, step, hthread, lost, waiting, Thread.data]
    | scanning j count data => simp [Balances, step, hthread, lost, waiting, Thread.data]
    | polling count data =>
      simp only [Balances, step, hthread, lost, waiting, Thread.data, total_singleton, answered,
        accepted, metas_nil]
      split_ifs <;> omega

/-- Every accepted flush is answered, waits, or was lost. -/
theorem flush_accounts (hhardware : ∀ i, (B.sensor i).isVirtual = false)
    (memory : Fin n → ℕ → InputEvent) (zero : F) (run : List (Step n)) (i : Fin n) :
    total (answered i) (transduce (step B) (start memory zero) run).2 +
        waiting i (transduce (step B) (start memory zero) run).1 +
        losses (step B) (lost i) (start memory zero) run =
      total (accepted i) (transduce (step B) (start memory zero) run).2 := by
  have hrun := balanced_run (balances (B := B) hhardware i) (start memory zero) run
  have hstart : waiting i (start memory zero) = 0 := rfl
  omega

/-- The sensor is disabled before its flush is answered. -/
def lostRun : List (Step 1) :=
  [.activate oneKernel 1 1, .flush oneKernel 1, .activate oneKernel 1 0, .pollEvents 8, .scan]

def oneStart : PollContext 1 ℚ := start (fun _ _ => ⟨0, 0, 0⟩) 0

theorem lostRun_accounts :
    total (answered 0) (transduce (step oneBoard) oneStart lostRun).2 +
        waiting 0 (transduce (step oneBoard) oneStart lostRun).1 +
        losses (step oneBoard) (lost 0) oneStart lostRun =
      total (accepted 0) (transduce (step oneBoard) oneStart lostRun).2 :=
  flush_accounts (fun _ => rfl) _ 0 lostRun 0

example : losses (step oneBoard) (lost 0) oneStart lostRun = 1 := by decide

end PollContext
end Cedric.NativeSensors
