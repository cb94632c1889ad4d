import Cedric.Lib.Setter
import Cedric.MotoshHal.RateCells
import Mathlib.Order.Bounds.Basic

/-!
# The shared rates of gyroscope and ecompass

After every call each of the two rates is the smallest delay that its enabled
clients have asked for, and the driver was told it last.
-/

namespace Cedric.MotoshHal

open BitFlags Derived Hub Setter

namespace Call

def InRange : Call → Prop
  | setEnable _ _ => True
  | batch _ ns _ => ns / 1000000 < USHRT_MAX

end Call

/-- Who is enabled, and the last delay asked for since the client was last disabled. -/
structure Desk where
  on : Client → Bool
  asked : Client → Option ℕ

namespace Desk

def opening : Desk := ⟨fun _ => false, fun _ => none⟩

def after (d : Desk) : Call → Desk
  | .setEnable c en =>
    ⟨Function.update d.on c (decide (en ≠ 0)),
      if en ≠ 0 then d.asked else Function.update d.asked c none⟩
  | .batch c ns _ =>
    if ns < 0 then d else { d with asked := Function.update d.asked c (some (ns / 1000000).toNat) }

def IsRate (d : Desk) (ecompass : Bool) (rate : ℕ) : Prop :=
  (rate = USHRT_MAX ∧ ∀ c, c.onEcompass = ecompass → d.on c → d.asked c = none) ∨
    IsLeast {ms | ∃ c, c.onEcompass = ecompass ∧ d.on c ∧ d.asked c = some ms} rate

end Desk

namespace HubSensors

variable {F : Type} {s t : HubSensors F} {H : MotoshHeader} {B : Build} {K : Kernel}

def rateDelay : Bool → Sys → Option ℕ
  | true, .setMagDelay ms => some ms
  | false, .setGyroDelay ms => some ms
  | _, _ => none

def rateHistory (ecompass : Bool) (log : Log) : History ℕ :=
  log.filterMap fun e => (rateDelay ecompass e.1).map fun ms => (ms, e.2)

def rateOf (s : HubSensors F) (ecompass : Bool) : ℕ :=
  if ecompass then s.mEcompassDelay else s.mGyroDelay

def Programmed (s : HubSensors F) : Prop :=
  ∀ e, s.rateOf e ≠ USHRT_MAX → accepted (rateHistory e s.log) = some (s.rateOf e)

def Quiet (s t : HubSensors F) : Prop :=
  ∀ e, t.rateOf e = s.rateOf e ∧ rateHistory e t.log = rateHistory e s.log

theorem Programmed.quiet (h : s.Programmed) (hst : Quiet s t) : t.Programmed := by
  intro e hset
  rw [(hst e).1] at hset ⊢
  rw [(hst e).2]
  exact h e hset

theorem quiet_syscall {c : Sys} (hc : ∀ e, rateDelay e c = none) : Quiet s (s.syscall K c).2 := by
  intro e
  refine ⟨rfl, ?_⟩
  simp [syscall, rateHistory, hc e]

theorem rateHistory_syscall {e : Bool} {c : Sys} {ms : ℕ} (hc : rateDelay e c = some ms) :
    rateHistory e (s.syscall K c).2.log = (ms, K s.log c) :: rateHistory e s.log := by
  simp [syscall, rateHistory, hc]

theorem Programmed.sent (h : s.Programmed) {e : Bool} {c : Sys} {ms : ℕ}
    (hc : rateDelay e c = some ms) (hother : rateDelay (!e) c = none)
    (hrate : t.rateOf e = ms) (hrest : t.rateOf (!e) = s.rateOf (!e)) (hlog : t.log = s.log)
    (hK : 0 ≤ K s.log c) : (t.syscall K c).2.Programmed := by
  intro e' hset
  by_cases he : e' = e
  · subst he
    rw [rateHistory_syscall hc, hlog, accepted_cons_of_nonneg ms _ hK]
    exact congrArg some hrate.symm
  · obtain rfl : e' = !e := Bool.eq_not.mpr he
    have hquiet : rateHistory (!e) (t.syscall K c).2.log = rateHistory (!e) s.log := by
      simp [syscall, rateHistory, hother, hlog]
    have hsame : (t.syscall K c).2.rateOf (!e) = s.rateOf (!e) := hrest
    rw [hsame] at hset ⊢
    rw [hquiet]
    exact h _ hset

end HubSensors

def Kernel.Succeeds (K : Kernel) : Prop := ∀ log c, 0 ≤ K log c

namespace HubSensors

variable {F : Type} {s t : HubSensors F} {H : MotoshHeader} {B : Build} {K : Kernel}

theorem Programmed.updateEcompassRate (hK : K.Succeeds) (h : s.Programmed) :
    (s.updateEcompassRate K).2.Programmed := by
  rw [updateEcompassRate_eq]
  split_ifs with hmax hnew
  · intro e hset
    cases e with
    | true => exact absurd rfl hset
    | false => exact h false hset
  · exact h.sent (e := true) rfl rfl rfl rfl rfl (hK _ _)
  · exact h

theorem Programmed.updateGyroRate (hK : K.Succeeds) (h : s.Programmed) :
    (s.updateGyroRate K).2.Programmed := by
  rw [updateGyroRate_eq]
  split_ifs with hmax hnew
  · intro e hset
    cases e with
    | true => exact h true hset
    | false => exact absurd rfl hset
  · exact h.sent (e := false) rfl rfl rfl rfl rfl (hK _ _)
  · exact h

theorem programmed_checkEcompass (hK : K.Succeeds) (handle : SensorHandle) {c : Pending F}
    (h : c.hub.Programmed) : (checkEcompass H K handle c).hub.Programmed := by
  have hrate := h.updateEcompassRate hK
  have hget (u : HubSensors F) : Quiet u (u.syscall K .getMagCal).2 :=
    quiet_syscall fun e => by cases e <;> rfl
  have hsave (u : HubSensors F) : Quiet u (u.syscall K .saveMagCal).2 :=
    quiet_syscall fun e => by cases e <;> rfl
  simp only [checkEcompass]
  split_ifs
  · exact hrate.quiet (hget _)
  · exact (hrate.quiet (hget _)).quiet (hsave _)
  · exact hrate
  · exact h

theorem programmed_checkGyro (hK : K.Succeeds) (handle : SensorHandle) {c : Pending F}
    (h : c.hub.Programmed) : (checkGyro K handle c).hub.Programmed := by
  rw [checkGyro]
  split_ifs
  · exact h.updateGyroRate hK
  · exact h

theorem programmed_applySensors (found : Bool) {c : Pending F} (h : c.hub.Programmed) :
    (applySensors K found c).hub.Programmed := by
  rw [applySensors]
  have hset : Quiet c.hub (c.hub.syscall K (.setSensors c.newEnabled)).2 :=
    quiet_syscall fun e => by cases e <;> rfl
  split_ifs
  · exact (h.quiet hset).quiet fun e => ⟨rfl, rfl⟩
  · exact h

theorem programmed_setEnable (hK : K.Succeeds) (c : Client) (en : ℤ) (h : s.Programmed) :
    (s.setEnable H B K c.handle en).2.Programmed := by
  have hswitch : (s.switched (decide (en ≠ 0)) c).Programmed :=
    h.quiet fun e => by cases c <;> exact ⟨rfl, rfl⟩
  have hfirst : (s.nonWake H B K (decide (en ≠ 0)) c.handle).hub.Programmed := by
    rw [nonWake, enableSwitch_client]
    exact programmed_applySensors _ (programmed_checkGyro hK _
      (programmed_checkEcompass hK _ hswitch))
  simp only [setEnable, c.listed, Bool.not_true, Bool.false_eq_true, ↓reduceIte, applyWake,
    wakeSwitch_client]
  exact hfirst.quiet fun e => ⟨rfl, rfl⟩

theorem programmed_batch (hK : K.Succeeds) (c : Client) (ns timeout : ℤ) (h : s.Programmed) :
    (s.batch B K c.handle ns timeout).2.Programmed := by
  rw [batch]
  split_ifs
  · exact h
  · exact h
  · have hasked : (s.requested (batchDelay ns) c).Programmed :=
      h.quiet fun e => by cases c <;> exact ⟨rfl, rfl⟩
    cases c with
    | gyro => exact hasked.updateGyroRate hK
    | uncalGyro => exact hasked.updateGyroRate hK
    | mag => exact hasked.updateEcompassRate hK
    | orient => exact hasked.updateEcompassRate hK
    | uncalMag => exact hasked.updateEcompassRate hK

theorem programmed_calls (hK : K.Succeeds) (cs : List Call) (h : s.Programmed) :
    (s.calls H B K cs).Programmed := by
  induction cs generalizing s with
  | nil => exact h
  | cons call cs ih =>
    cases call with
    | setEnable c en => exact ih (programmed_setEnable hK c en h)
    | batch c ns timeout => exact ih (programmed_batch hK c ns timeout h)

theorem le_minReqDelay_iff (n : ℕ) (xs : List ℕ) :
    n ≤ minReqDelay xs ↔ n ≤ USHRT_MAX ∧ ∀ x ∈ xs, n ≤ x := by
  rw [minReqDelay]
  generalize USHRT_MAX = ceiling
  induction xs generalizing ceiling with
  | nil => simp
  | cons x xs ih =>
    rw [List.foldl_cons, ih, le_min_iff, List.forall_mem_cons, and_assoc]

theorem minReqDelay_mem (xs : List ℕ) : minReqDelay xs = USHRT_MAX ∨ minReqDelay xs ∈ xs := by
  rw [minReqDelay]
  generalize USHRT_MAX = ceiling
  induction xs generalizing ceiling with
  | nil => exact Or.inl rfl
  | cons x xs ih =>
    rw [List.foldl_cons, List.mem_cons]
    obtain hmin | hin := ih (min ceiling x)
    · obtain hle | hle := min_choice ceiling x
      · exact Or.inl (hmin.trans hle)
      · exact Or.inr (Or.inl (hmin.trans hle))
    · exact Or.inr (Or.inr hin)

def clientsOf : Bool → List Client
  | true => [.mag, .orient, .uncalMag]
  | false => [.gyro, .uncalGyro]

theorem mem_clientsOf (c : Client) (e : Bool) : c ∈ clientsOf e ↔ c.onEcompass = e := by
  cases e <;> cases c <;> decide

structure Follows (x : Client → ClientCell) (d : Desk) : Prop where
  on : ∀ c, (x c).on = d.on c
  req : ∀ c, (x c).req = (d.asked c).getD USHRT_MAX
  below : ∀ c, ∀ ms ∈ d.asked c, ms < USHRT_MAX

theorem Follows.isRate {x : Client → ClientCell} {d : Desk} (h : Follows x d) (e : Bool) :
    d.IsRate e (minReqDelay ((clientsOf e).map fun c => (x c).wanted)) := by
  set rate := minReqDelay ((clientsOf e).map fun c => (x c).wanted) with hrate
  have hlower : ∀ c, c.onEcompass = e → rate ≤ (x c).wanted := by
    intro c hc
    have hall := ((le_minReqDelay_iff rate _).mp hrate.le).2
    exact hall _ (List.mem_map_of_mem ((mem_clientsOf c e).mpr hc))
  have hwanted (c : Client) (hon : d.on c) {ms : ℕ} (hms : d.asked c = some ms) :
      (x c).wanted = ms := by
    rw [ClientCell.wanted, if_pos (by rw [h.on c]; exact hon), h.req c, hms]
    rfl
  by_cases hmax : rate = USHRT_MAX
  · refine Or.inl ⟨hmax, fun c hc hon => ?_⟩
    cases hms : d.asked c with
    | none => rfl
    | some ms =>
      have hle := hlower c hc
      rw [hwanted c hon hms, hmax] at hle
      exact absurd (h.below c ms hms) (not_lt.mpr hle)
  · refine Or.inr ⟨?_, ?_⟩
    · obtain hceiling | hin := minReqDelay_mem ((clientsOf e).map fun c => (x c).wanted)
      · exact absurd hceiling hmax
      obtain ⟨c, hc, hwants⟩ := List.mem_map.mp hin
      have hset : (x c).wanted ≠ USHRT_MAX := by rwa [hwants]
      have hon : (x c).on = true := by
        by_contra hoff
        exact hset (if_neg hoff)
      rw [ClientCell.wanted, if_pos hon, h.req c] at hwants hset
      refine ⟨c, (mem_clientsOf c e).mp hc, by rw [← h.on c]; exact hon, ?_⟩
      cases hms : d.asked c with
      | none => exact absurd (by rw [hms]; rfl) hset
      | some ms =>
        rw [hms, Option.getD_some] at hwants
        exact congrArg some hwants
    · rintro ms ⟨c, hc, hon, hms⟩
      rw [← hwanted c hon hms]
      exact hlower c hc

theorem batchDelay_of_inRange {ns : ℤ} (hns : 0 ≤ ns) (h : ns / 1000000 < USHRT_MAX) :
    batchDelay ns = (ns / 1000000).toNat := by
  have hnonneg : 0 ≤ ns / 1000000 := Int.ediv_nonneg hns (by decide)
  rw [batchDelay]
  apply Nat.mod_eq_of_lt
  simp only [USHRT_MAX] at h
  omega

theorem Follows.update {x : Client → ClientCell} {d d' : Desk} (h : Follows x d) {c : Client}
    {y : ClientCell} (hon : d'.on = Function.update d.on c y.on)
    (hother : ∀ c', c' ≠ c → d'.asked c' = d.asked c')
    (hreq : y.req = (d'.asked c).getD USHRT_MAX) (hbelow : ∀ ms ∈ d'.asked c, ms < USHRT_MAX) :
    Follows (Function.update x c y) d' := by
  refine ⟨fun c' => ?_, fun c' => ?_, fun c' ms hms => ?_⟩ <;> by_cases hc : c' = c
  · subst hc
    rw [hon, Function.update_self, Function.update_self]
  · rw [hon, Function.update_of_ne hc, Function.update_of_ne hc]
    exact h.on c'
  · subst hc
    rw [Function.update_self]
    exact hreq
  · rw [Function.update_of_ne hc, hother c' hc]
    exact h.req c'
  · subst hc
    exact hbelow ms hms
  · rw [hother c' hc] at hms
    exact h.below c' ms hms

theorem Follows.setEnable {x : Client → ClientCell} {d : Desk} (h : Follows x d) (c : Client)
    (en : ℤ) : Follows ((Call.setEnable c en).op.act x) (d.after (.setEnable c en)) := by
  have hself : (d.after (.setEnable c en)).asked c = if en ≠ 0 then d.asked c else none := by
    simp only [Desk.after]
    split_ifs
    · rfl
    · exact Function.update_self _ _ _
  refine h.update (c := c) rfl (fun c' hne => ?_) ?_ fun ms hms => ?_
  · simp only [Desk.after]
    split_ifs
    · rfl
    · exact Function.update_of_ne hne _ _
  · rw [hself]
    simp only [Call.client, Call.change, ClientCell.switch]
    by_cases hen : en ≠ 0
    · rw [if_pos hen, if_pos (decide_eq_true hen)]
      exact h.req c
    · rw [if_neg hen, if_neg (by simpa using hen)]
      rfl
  · rw [hself] at hms
    split_ifs at hms
    · exact h.below c ms hms
    · exact absurd hms (Option.not_mem_none ms)

theorem Follows.batch {x : Client → ClientCell} {d : Desk} (h : Follows x d) (c : Client)
    {ns : ℤ} (timeout : ℤ) (hdelay : ns / 1000000 < USHRT_MAX) :
    Follows ((Call.batch c ns timeout).op.act x) (d.after (.batch c ns timeout)) := by
  by_cases hns : ns < 0
  · have hidle : (Call.batch c ns timeout).op.act x = x := by
      simp only [Call.op, Call.change_idle hns]
      exact Function.update_eq_self _ _
    rw [hidle, Desk.after, if_pos hns]
    exact h
  · have hnonneg : 0 ≤ ns / 1000000 := Int.ediv_nonneg (not_lt.mp hns) (by decide)
    have hself : (d.after (.batch c ns timeout)).asked c = some (ns / 1000000).toNat := by
      simp only [Desk.after, if_neg hns]
      exact Function.update_self _ _ _
    refine h.update (c := c) ?_ (fun c' hne => ?_) ?_ fun ms hms => ?_
    · simp only [Desk.after, Call.client, Call.change, if_neg hns, ClientCell.ask, h.on]
      exact (Function.update_eq_self _ _).symm
    · simp only [Desk.after, if_neg hns]
      exact Function.update_of_ne hne _ _
    · rw [hself]
      simp only [Call.change, if_neg hns, ClientCell.ask]
      exact batchDelay_of_inRange (not_lt.mp hns) hdelay
    · rw [hself] at hms
      rw [← Option.some.inj hms]
      exact (Int.toNat_lt hnonneg).mpr hdelay

theorem Follows.after {x : Client → ClientCell} {d : Desk} (h : Follows x d) {call : Call}
    (hcall : call.InRange) : Follows (call.op.act x) (d.after call) := by
  cases call with
  | setEnable c en => exact h.setEnable c en
  | batch c ns timeout => exact h.batch c timeout hcall

theorem follows_run {x : Client → ClientCell} {d : Desk} (h : Follows x d) {cs : List Call}
    (hcs : ∀ call ∈ cs, call.InRange) :
    Follows (cs.foldl (fun x call => call.op.act x) x) (cs.foldl Desk.after d) := by
  induction cs generalizing x d with
  | nil => exact h
  | cons call cs ih =>
    obtain ⟨hcall, hcs⟩ := List.forall_mem_cons.mp hcs
    exact ih (h.after hcall) hcs

/-- The two rates are the smallest requests, and a rate that is set was the last delay that
the driver took. -/
structure Arbitrated (s : HubSensors F) (d : Desk) : Prop where
  ecompass : d.IsRate true s.mEcompassDelay
  gyro : d.IsRate false s.mGyroDelay
  programmed : s.Programmed

theorem base_run (b : Board (Client → ClientCell) Value.Carrier) (cs : List Call) :
    (run Value.compute b (cs.map Call.op)).base =
      cs.foldl (fun x call => call.op.act x) b.base := by
  induction cs generalizing b with
  | nil => rfl
  | cons call cs ih => exact ih _

theorem follows_start (flags wakeFlags : Option (BitVec 32)) :
    Follows ((start flags wakeFlags : HubSensors F).cell H) Desk.opening := by
  refine ⟨fun c => ?_, fun c => ?_, fun c ms hms => absurd hms (Option.not_mem_none ms)⟩
  · cases c <;> rfl
  · cases c <;> rfl

theorem arbitrated_calls (hK : K.Succeeds) (flags wakeFlags : Option (BitVec 32))
    {cs : List Call} (hcs : ∀ call ∈ cs, call.InRange) :
    Arbitrated ((start flags wakeFlags : HubSensors F).calls H B K cs)
      (cs.foldl Desk.after .opening) := by
  set s : HubSensors F := start flags wakeFlags with hs
  have hview := view_calls (s := s) (H := H) (B := B) (K := K) cs
  have hbase : (s.calls H B K cs).cell H = cs.foldl (fun x call => call.op.act x) (s.cell H) :=
    (congrArg Board.base hview).trans (base_run _ cs)
  have hfollows : Follows ((s.calls H B K cs).cell H) (cs.foldl Desk.after .opening) := by
    rw [hbase]
    exact follows_run (follows_start flags wakeFlags) hcs
  have hfresh {k : Value} (h : Fresh Value.compute k (s.view H)) :
      Fresh Value.compute k ((s.calls H B K cs).view H) := by
    rw [hview]
    refine h.run fun o ho => ?_
    obtain ⟨call, -, rfl⟩ := List.mem_map.mp ho
    exact call.op_sound
  have hecompass : (s.calls H B K cs).mEcompassDelay = _ := hfresh (k := .ecompassRate) rfl
  have hgyro : (s.calls H B K cs).mGyroDelay = _ := hfresh (k := .gyroRate) rfl
  refine ⟨?_, ?_, programmed_calls hK cs fun e hset => ?_⟩
  · rw [hecompass]
    exact hfollows.isRate true
  · rw [hgyro]
    exact hfollows.isRate false
  · cases e <;> exact absurd rfl hset

end HubSensors

/-- The rates are arbitrated after every sequence of calls, and the final state does not
depend on whether a client was enabled or its delay asked for first. -/
theorem rates_arbitrated (F : Type) (H : MotoshHeader) (B : Build)
    (flags wakeFlags : Option (BitVec 32)) :
    (∀ K : Kernel, K.Succeeds → ∀ cs : List Call, (∀ call ∈ cs, call.InRange) →
      HubSensors.Arbitrated ((HubSensors.start flags wakeFlags : HubSensors F).calls H B K cs)
        (cs.foldl Desk.after .opening)) ∧
    ∀ (K : Kernel) (pre mid post : List Call) (c : Client) (ns timeout en : ℤ), en ≠ 0 →
      (∀ call ∈ mid, call.client ≠ c) →
      ((HubSensors.start flags wakeFlags : HubSensors F).calls H B K
          (pre ++ .batch c ns timeout :: (mid ++ .setEnable c en :: post))).members =
        ((HubSensors.start flags wakeFlags : HubSensors F).calls H B K
          (pre ++ .setEnable c en :: (mid ++ .batch c ns timeout :: post))).members := by
  constructor
  · intro K hK cs hcs
    exact HubSensors.arbitrated_calls hK flags wakeFlags hcs
  · intro K pre mid post c ns timeout en hen hmid
    exact HubSensors.calls_swap pre mid post c ns timeout hen hmid

/-- The orientation sensor asks for less than the magnetometer, beside the gyroscope. -/
theorem rates_arbitrated_clients :
    HubSensors.Arbitrated ((HubSensors.start none none : HubSensors Unit).calls .numbered .all
        (fun _ _ => 0) [.setEnable .mag 1, .batch .mag 20000000 0, .setEnable .gyro 1,
          .setEnable .orient 1, .batch .orient 10000000 0])
      ([.setEnable .mag 1, .batch .mag 20000000 0, .setEnable .gyro 1, .setEnable .orient 1,
        .batch .orient 10000000 0].foldl Desk.after .opening) ∧
    ((HubSensors.start none none : HubSensors Unit).calls .numbered .all (fun _ _ => 0)
        [.setEnable .orient 1, .batch .mag 20000000 0, .batch .orient 10000000 0,
          .setEnable .mag 1]).members =
      ((HubSensors.start none none : HubSensors Unit).calls .numbered .all (fun _ _ => 0)
        [.setEnable .orient 1, .setEnable .mag 1, .batch .orient 10000000 0,
          .batch .mag 20000000 0]).members := by
  have hinRange (c : Client) (ms : ℤ) (hms : ms < USHRT_MAX) :
      (Call.batch c (ms * 1000000) 0).InRange := by
    rw [Call.InRange]
    omega
  refine ⟨(rates_arbitrated Unit .numbered .all none none).1 (fun _ _ => 0) (fun _ _ => le_rfl)
    _ ?_, ?_⟩
  · simp only [List.forall_mem_cons, List.not_mem_nil, false_imp_iff, implies_true, and_true]
    exact ⟨trivial, hinRange .mag 20 (by decide), trivial, trivial,
      hinRange .orient 10 (by decide)⟩
  · refine (rates_arbitrated Unit .numbered .all none none).2 (fun _ _ => 0) [.setEnable .orient 1]
      [.batch .orient 10000000 0] [] .mag 20000000 0 1 one_ne_zero ?_
    intro call hcall
    rw [List.mem_singleton.mp hcall]
    decide

end Cedric.MotoshHal
