import Cedric.Lib.Requests
import Cedric.Lib.Runs
import Cedric.LineageActions.KeyHandler

/-!
# The proximity gate for gestures made with the screen off

Each gesture makes a request, which is answered by a call of `processFPScancode` or
refused by a near reading, and takes the wake lock until its listener is called.
-/

namespace Cedric.LineageActions

open Calls Call KeyAction Requests Runs

namespace KeyHandler

variable (s : KeyHandler) (phone : Phone)

/-- The event is a gesture made with the screen off, while such gestures are enabled. -/
def IsScreenOffGesture (event : KeyEvent) : Prop :=
  event.scanCode ∈ sSupportedFPGestures ∧ event.action = ACTION_UP ∧
    s.fpGesturePending = false ∧ phone.isScreenOn = false ∧
    readOneLine phone .FP_HOME_NODE = some "1" ∧ readOneLine phone .FP_HOME_OFF_NODE = some "1"

def CheckOn : Event → Prop
  | .key phone _ => isProximityEnabledOnScreenOffGesturesFP phone = some true
  | _ => True

end KeyHandler

namespace ScreenOffGestures

variable (g : ScreenOffGestures)

def Ready : Prop :=
  g.mProximityWakeLock = true ∧ g.mSensorManager = true ∧ g.mProximitySensor = true

def ask (scanCode : ScanCode) : ScreenOffGestures :=
  { g with
    gestures := g.gestures ++ [scanCode]
    messages := g.messages ++ [⟨g.gestures.length, scanCode⟩]
    acquired := g.acquired ++ [g.gestures.length]
    listeners := g.listeners ++ [⟨g.gestures.length, scanCode⟩] }

def process (msg : Message) (messages : List Message) : ScreenOffGestures :=
  { g with messages := messages, processed := g.processed ++ [(msg.gesture, msg.arg1)] }

def hear (listener : Listener) (far : Bool) : ScreenOffGestures :=
  { g with
    released := g.released ++ [listener.gesture]
    listeners := g.listeners.erase listener
    messages :=
      if g.messages = [] then []
      else if far then [⟨listener.gesture, listener.scanCode⟩] else [] }

end ScreenOffGestures

namespace KeyHandler

variable {s : KeyHandler} {phone : Phone}

theorem processFPScreenOffScancode_screenOff (hready : s.screenOff.Ready)
    (hfree : s.screenOff.messages = [])
    (hcheck : isProximityEnabledOnScreenOffGesturesFP phone = some true) (scanCode : ScanCode) :
    (processFPScreenOffScancode phone scanCode s).1.screenOff = s.screenOff.ask scanCode := by
  obtain ⟨hlock, hmanager, hsensor⟩ := hready
  simp only [processFPScreenOffScancode, hcheck, onScreenOff, get_bind, update_bind,
    deref_some_bind, ScreenOffGestures.hasMessages, hfree]
  simp [sendMessage, registerFPScreenOffListener, onScreenOff, hlock, hmanager, hsensor,
    ScreenOffGestures.ask, hfree]

theorem handleGesture_keeps {enabled enabledOff : Bool} {event : KeyEvent}
    (h : ¬ (phone.isScreenOn = false ∧ enabled = true ∧ enabledOff = true)) :
    Keeps screenOff (handleGesture phone event enabled enabledOff) := by
  rw [handleGesture]
  split_ifs with hguard hscreen
  · exact Keeps.bind allowsTaps_screenOff.resetDoubleTap fun _ => keeps_pure _
  · simp only [Bool.and_eq_true, Bool.not_eq_true'] at hscreen
    refine absurd ⟨hscreen.1, ?_, hscreen.2⟩ h
    cases enabled with
    | true => rfl
    | false => exact absurd rfl hguard
  · exact Keeps.bind (allowsTaps_screenOff.processFPScancode phone event.scanCode) fun _ =>
      keeps_pure _

theorem handleGesture_screenOff (event : KeyEvent) (hscreen : phone.isScreenOn = false) :
    (handleGesture phone event true true s).1 =
      (processFPScreenOffScancode phone event.scanCode s).1 := by
  rw [handleGesture, if_neg (by rw [hscreen]; decide), if_pos (by rw [hscreen]; decide)]
  exact bind_pure_state _ _ _

theorem handleKeyEvent_gesture {event : KeyEvent} (h : s.IsScreenOffGesture phone event)
    (hready : s.screenOff.Ready) (hfree : s.screenOff.messages = [])
    (hcheck : isProximityEnabledOnScreenOffGesturesFP phone = some true) :
    (handleKeyEvent phone event s).1.screenOff = s.screenOff.ask event.scanCode := by
  obtain ⟨hfp, hup, hpending, hscreen, hhome, hoff⟩ := h
  have hkept := allowsTaps_screenOff.takeGesture event s
  rw [handleKeyEvent_taken ⟨hfp, hup, hpending⟩ hhome hoff]
  have hanswer := processFPScreenOffScancode_screenOff (s := (takeGesture event s).1)
    (by rwa [hkept]) (by rwa [hkept]) hcheck event.scanCode
  rw [hkept] at hanswer
  rw [← hanswer]
  exact congrArg screenOff (handleGesture_screenOff event hscreen)

theorem handleKeyEvent_other {event : KeyEvent} (h : ¬ s.IsScreenOffGesture phone event) :
    (handleKeyEvent phone event s).1.screenOff = s.screenOff := by
  by_cases htaken : s.Takes event
  · cases hhome : readOneLine phone .FP_HOME_NODE with
    | none => rw [handleKeyEvent_null (Or.inl hhome)]
    | some home =>
      cases hoff : readOneLine phone .FP_HOME_OFF_NODE with
      | none => rw [handleKeyEvent_null (Or.inr hoff)]
      | some homeOff =>
        rw [handleKeyEvent_taken htaken hhome hoff]
        refine (handleGesture_keeps ?_ _).trans (allowsTaps_screenOff.takeGesture event s)
        rintro ⟨hscreen, hhome', hoff'⟩
        refine h ⟨htaken.1, htaken.2.1, htaken.2.2, hscreen, ?_, ?_⟩
        · rw [hhome, beq_iff_eq.mp hhome']
        · rw [hoff, beq_iff_eq.mp hoff']
  · rw [handleKeyEvent_untaken htaken]

theorem processGesture_screenOff (gesture : ℕ) (scanCode : ScanCode) :
    (processGesture phone gesture scanCode s).1.screenOff =
      { s.screenOff with processed := s.screenOff.processed ++ [(gesture, scanCode)] } :=
  allowsTaps_screenOff.processFPScancode phone scanCode _

theorem onSensorChanged_ready (hready : s.screenOff.Ready) (listener : Listener) (far : Bool) :
    onSensorChanged listener far s =
      ({ s with screenOff := s.screenOff.hear listener far }, some ()) := by
  obtain ⟨hlock, hmanager, hsensor⟩ := hready
  simp only [onSensorChanged, onScreenOff, update_bind, get_bind, hlock, hmanager, hsensor,
    Bool.not_true, Bool.false_eq_true, if_false, ScreenOffGestures.hasMessages,
    ScreenOffGestures.hear]
  cases hmessages : s.screenOff.messages with
  | nil => simp
  | cons msg messages => cases far <;> simp [sendMessage, onScreenOff]

theorem callback_screenOff (r : Runnable) :
    (s.step (.callback phone r)).screenOff = s.screenOff := by
  rw [step]
  split_ifs
  · exact allowsTaps_screenOff.run phone r _
  · rfl

theorem message_screenOff {msg : Message} {messages : List Message}
    (h : s.screenOff.messages = msg :: messages) :
    (s.step (.message phone)).screenOff = s.screenOff.process msg messages := by
  rw [step, h]
  exact processGesture_screenOff _ _

end KeyHandler

namespace ScreenOffGestures

variable {g : ScreenOffGestures} {heard near : List ℕ}

/-- The requests; `near` lists the gestures whose request was pending at a near reading. -/
def requests (g : ScreenOffGestures) (near : List ℕ) : Docket ScanCode where
  made := g.gestures
  opened := g.messages.map Message.gesture
  answered := g.processed
  refused := near

def leases (g : ScreenOffGestures) : Leases where
  taken := g.acquired
  given := g.released
  held := g.listeners.map Listener.gesture

/-- `heard` lists the gestures whose listener was called. -/
structure Inv (g : ScreenOffGestures) (heard near : List ℕ) : Prop where
  ready : g.Ready
  docket : (g.requests near).Sound
  leases : g.leases.Sound
  gated : g.acquired = List.range g.gestures.length
  heard : heard = g.released
  single : g.messages.length ≤ 1
  messages : ∀ msg ∈ g.messages, g.gestures[msg.gesture]? = some msg.arg1
  listeners : ∀ l ∈ g.listeners, g.gestures[l.gesture]? = some l.scanCode

theorem Inv.ask (h : g.Inv heard near) (hfree : g.messages = []) (scanCode : ScanCode) :
    (g.ask scanCode).Inv heard near where
  ready := h.ready
  docket := by
    have hasked : (g.ask scanCode).requests near = (g.requests near).ask scanCode := by
      simp only [requests, Docket.ask, ScreenOffGestures.ask, hfree, List.nil_append,
        List.map_cons, List.map_nil]
    rw [hasked]
    exact h.docket.ask scanCode
  leases := by
    have hnew : g.gestures.length ∉ g.acquired := by
      rw [h.gated]
      exact List.not_mem_range_self
    have hasked : (g.ask scanCode).leases =
        ⟨g.acquired ++ [g.gestures.length], g.released,
          g.listeners.map Listener.gesture ++ [g.gestures.length]⟩ := by
      simp only [ScreenOffGestures.leases, ScreenOffGestures.ask, List.map_append, List.map_cons,
        List.map_nil]
    rw [hasked]
    exact h.leases.take hnew
  gated := by
    rw [ScreenOffGestures.ask, h.gated, List.length_append]
    exact List.range_succ.symm
  heard := h.heard
  single := by
    rw [ScreenOffGestures.ask, hfree]
    exact Nat.le_refl 1
  messages msg hmsg := by
    rw [ScreenOffGestures.ask, hfree] at hmsg
    rw [List.mem_singleton.mp hmsg]
    exact List.getElem?_concat_length
  listeners l hl := by
    rcases List.mem_append.mp hl with hl | hl
    · have hlt := (List.getElem?_eq_some_iff.mp (h.listeners l hl)).1
      exact (List.getElem?_append_left hlt).trans (h.listeners l hl)
    · rw [List.mem_singleton.mp hl]
      exact List.getElem?_concat_length

theorem Inv.process (h : g.Inv heard near) {msg : Message} {messages : List Message}
    (hmessages : g.messages = msg :: messages) : (g.process msg messages).Inv heard near := by
  have hsingle := h.single
  rw [hmessages, List.length_cons] at hsingle
  have hrest : messages = [] := List.eq_nil_of_length_eq_zero (by omega)
  subst hrest
  have hanswered := h.docket.answer (i := msg.gesture) (a := msg.arg1)
    (List.mem_map_of_mem (by rw [hmessages]; exact List.mem_singleton_self msg))
    (h.messages msg (by rw [hmessages]; exact List.mem_singleton_self msg))
  exact ⟨h.ready, hanswered, h.leases, h.gated, h.heard, Nat.zero_le 1, nofun, h.listeners⟩

theorem Inv.pending (h : g.Inv heard near) : g.messages = [] ∨ ∃ msg, g.messages = [msg] := by
  match hmessages : g.messages with
  | [] => exact Or.inl rfl
  | [msg] => exact Or.inr ⟨msg, rfl⟩
  | _ :: _ :: _ =>
    have hsingle := h.single
    rw [hmessages, List.length_cons, List.length_cons] at hsingle
    omega

theorem hear_messages (listener : Listener) (far : Bool) :
    (g.hear listener far).messages = [⟨listener.gesture, listener.scanCode⟩] ∨
      (g.hear listener far).messages = [] := by
  simp only [hear]
  split_ifs
  · exact Or.inr rfl
  · exact Or.inl rfl
  · exact Or.inr rfl

theorem Inv.hear_docket (h : g.Inv heard near) (listener : Listener) {far : Bool}
    (hfar : far = true → ∀ msg ∈ g.messages, msg.gesture = listener.gesture) :
    ((g.hear listener far).requests
      (if far then near else near ++ g.messages.map Message.gesture)).Sound := by
  rcases h.pending with hnone | ⟨msg, hmsg⟩
  · have hsame : (g.hear listener far).requests
        (if far then near else near ++ g.messages.map Message.gesture) = g.requests near := by
      simp only [requests, hear, hnone, if_true, List.map_nil, List.append_nil, ite_self]
    rw [hsame]
    exact h.docket
  · have hpending : msg.gesture ∈ (g.requests near).opened := by
      rw [requests, hmsg]
      exact List.mem_singleton_self _
    cases far with
    | true =>
      have hown : msg.gesture = listener.gesture := hfar rfl msg (by rw [hmsg]; simp)
      have hsame : (g.hear listener true).requests near = g.requests near := by
        simp only [requests, hear, hmsg, List.cons_ne_nil, if_true, if_false, List.map_cons,
          List.map_nil, hown]
      rw [if_pos rfl, hsame]
      exact h.docket
    | false =>
      have hrefused : (g.hear listener false).requests (near ++ g.messages.map Message.gesture) =
          (g.requests near).refuse msg.gesture := by
        simp only [requests, hear, Docket.refuse, hmsg, List.cons_ne_nil, if_false, List.map_cons,
          List.map_nil, Bool.false_eq_true]
      rw [if_neg Bool.false_ne_true, hrefused]
      exact h.docket.refuse hpending

theorem Inv.hear_leases (h : g.Inv heard near) {listener : Listener}
    (hl : listener ∈ g.listeners) (far : Bool) : (g.hear listener far).leases.Sound :=
  h.leases.give ((List.perm_cons_erase hl).map Listener.gesture)

theorem Inv.hear (h : g.Inv heard near) {listener : Listener} (hl : listener ∈ g.listeners)
    {far : Bool}
    (hfar : far = true → ∀ msg ∈ g.messages, msg.gesture = listener.gesture) :
    (g.hear listener far).Inv (heard ++ [listener.gesture])
      (if far then near else near ++ g.messages.map Message.gesture) where
  ready := h.ready
  docket := h.hear_docket listener hfar
  leases := h.hear_leases hl far
  gated := h.gated
  heard := congrArg (· ++ [listener.gesture]) h.heard
  single := by
    rcases g.hear_messages listener far with hown | hnone
    · exact (congrArg List.length hown).le
    · exact (congrArg List.length hnone).le.trans (Nat.zero_le 1)
  messages msg hmsg := by
    rcases g.hear_messages listener far with hown | hnone
    · rw [hown] at hmsg
      rw [List.mem_singleton.mp hmsg]
      exact h.listeners listener hl
    · rw [hnone] at hmsg
      cases hmsg
  listeners l hmem := h.listeners l (List.mem_of_mem_erase hmem)

end ScreenOffGestures

/-- The handler beside what has happened: the gestures whose listener was called, and those whose
request was pending when a listener got a near reading. -/
structure ProximityGate extends KeyHandler where
  heard : List ℕ
  near : List ℕ

namespace ProximityGate

open KeyHandler

def start (mVibrator : Bool) : ProximityGate := ⟨.start mVibrator true true true, [], []⟩

variable (w : ProximityGate)

def step (e : Event) : ProximityGate :=
  let s := w.toKeyHandler.step e
  match e with
  | .reading listener far =>
    if listener ∈ w.screenOff.listeners then
      ⟨s, w.heard ++ [listener.gesture],
        if far then w.near else w.near ++ w.screenOff.messages.map Message.gesture⟩
    else ⟨s, w.heard, w.near⟩
  | _ => ⟨s, w.heard, w.near⟩

/-- What holds of a step. A gesture is answered through the gate: it only sends its request, takes
the wake lock and registers its listener, and its scan code is processed when the message is
delivered, which its request or a far reading of its listener has sent. -/
structure Right (w : ProximityGate) (e : Event) : Prop where
  once : ((w.step e).screenOff.processed.map Prod.fst).Nodup
  own : ∀ p ∈ (w.step e).screenOff.processed, (w.step e).screenOff.gestures[p.1]? = some p.2
  refused : ∀ i ∈ (w.step e).near, i ∉ (w.step e).screenOff.processed.map Prod.fst
  asks : ∀ phone event, e = .key phone event → w.IsScreenOffGesture phone event →
    (w.step e).screenOff = w.screenOff.ask event.scanCode
  waits : ∀ p ∈ (w.step e).screenOff.processed, p ∈ w.screenOff.processed ∨
    ∃ phone, e = .message phone ∧ ⟨p.1, p.2⟩ ∈ w.screenOff.messages
  sent : ∀ msg ∈ (w.step e).screenOff.messages, msg ∈ w.screenOff.messages ∨
    (∃ phone event, e = .key phone event ∧ w.IsScreenOffGesture phone event ∧
      msg = ⟨w.screenOff.gestures.length, event.scanCode⟩) ∨
    ∃ listener ∈ w.screenOff.listeners, e = .reading listener true ∧
      msg = ⟨listener.gesture, listener.scanCode⟩
  gated : (w.step e).screenOff.acquired = List.range (w.step e).screenOff.gestures.length
  released : ∀ i ∈ (w.step e).screenOff.acquired,
    (w.step e).screenOff.released.count i = if i ∈ (w.step e).heard then 1 else 0

/-- A gesture finds no request pending, and a far reading no request of another gesture. -/
def Orderly : Event → Prop
  | .key phone event => w.IsScreenOffGesture phone event → w.screenOff.messages = []
  | .reading listener far => listener ∈ w.screenOff.listeners → far = true →
      ∀ msg ∈ w.screenOff.messages, msg.gesture = listener.gesture
  | _ => True

variable {w}

def Inv (w : ProximityGate) : Prop := w.screenOff.Inv w.heard w.near

theorem inv_start (mVibrator : Bool) : (start mVibrator).Inv where
  ready := ⟨rfl, rfl, rfl⟩
  docket := ⟨List.nodup_nil, nofun, nofun, nofun⟩
  leases := ⟨List.nodup_nil, List.Perm.refl []⟩
  gated := rfl
  heard := rfl
  single := Nat.zero_le 1
  messages := nofun
  listeners := nofun

/-- What a step does to the part of the handler that is the gate. -/
inductive Steps (w : ProximityGate) (e : Event) : ScreenOffGestures → Prop where
  | asks {phone : Phone} {event : KeyEvent} (he : e = .key phone event)
      (hgesture : w.IsScreenOffGesture phone event) : Steps w e (w.screenOff.ask event.scanCode)
  | delivers {phone : Phone} {msg : Message} {messages : List Message} (he : e = .message phone)
      (hmessages : w.screenOff.messages = msg :: messages) :
      Steps w e (w.screenOff.process msg messages)
  | hears {listener : Listener} {far : Bool} (he : e = .reading listener far)
      (hl : listener ∈ w.screenOff.listeners) : Steps w e (w.screenOff.hear listener far)
  | same (hgesture : ∀ phone event, e = .key phone event → ¬ w.IsScreenOffGesture phone event)
      (hheard : (w.step e).heard = w.heard) (hnear : (w.step e).near = w.near) :
      Steps w e w.screenOff

theorem Inv.steps (h : w.Inv) {e : Event} (hcheck : CheckOn e) (horderly : w.Orderly e) :
    w.Steps e (w.step e).screenOff := by
  cases e with
  | key phone event =>
    change w.Steps _ (handleKeyEvent phone event w.toKeyHandler).1.screenOff
    by_cases hgesture : w.IsScreenOffGesture phone event
    · rw [handleKeyEvent_gesture hgesture h.ready (horderly hgesture) hcheck]
      exact .asks rfl hgesture
    · rw [handleKeyEvent_other hgesture]
      refine .same (fun phone' event' he => ?_) rfl rfl
      cases he
      exact hgesture
  | callback phone r =>
    change w.Steps _ (w.toKeyHandler.step (.callback phone r)).screenOff
    rw [callback_screenOff]
    exact .same nofun rfl rfl
  | message phone =>
    change w.Steps _ (w.toKeyHandler.step (.message phone)).screenOff
    cases hmessages : w.screenOff.messages with
    | nil =>
      rw [KeyHandler.step, hmessages]
      exact .same nofun rfl rfl
    | cons msg messages =>
      rw [message_screenOff hmessages]
      exact .delivers rfl hmessages
  | reading listener far =>
    by_cases hl : listener ∈ w.screenOff.listeners
    · simp only [ProximityGate.step, KeyHandler.step, if_pos hl]
      rw [onSensorChanged_ready h.ready]
      exact .hears rfl hl
    · have hsame : w.step (.reading listener far) = w := by
        simp only [ProximityGate.step, KeyHandler.step, if_neg hl]
      rw [hsame]
      exact .same nofun (by rw [hsame]) (by rw [hsame])

theorem Inv.step (h : w.Inv) {e : Event} (hcheck : CheckOn e) (horderly : w.Orderly e) :
    (w.step e).Inv := by
  have hsteps := h.steps hcheck horderly
  rw [Inv]
  generalize (w.step e).screenOff = g at hsteps
  cases hsteps with
  | @asks phone event he hgesture =>
    subst he
    exact ScreenOffGestures.Inv.ask h (horderly hgesture) event.scanCode
  | delivers he hmessages =>
    subst he
    exact ScreenOffGestures.Inv.process h hmessages
  | @hears listener far he hl =>
    subst he
    simp only [ProximityGate.step, if_pos hl]
    exact ScreenOffGestures.Inv.hear h hl (horderly hl)
  | same _ hheard hnear =>
    rw [hheard, hnear]
    exact h

theorem Steps.asks_of_gesture {e : Event} {g : ScreenOffGestures} (h : w.Steps e g) {phone : Phone}
    {event : KeyEvent} (he : e = .key phone event) (hgesture : w.IsScreenOffGesture phone event) :
    g = w.screenOff.ask event.scanCode := by
  cases h with
  | asks he' hgesture' =>
    cases he.symm.trans he'
    rfl
  | delivers he' => cases he.symm.trans he'
  | hears he' => cases he.symm.trans he'
  | same hnone => exact absurd hgesture (hnone phone event he)

theorem Steps.waits {e : Event} {g : ScreenOffGestures} (h : w.Steps e g) (p : ℕ × ScanCode)
    (hp : p ∈ g.processed) : p ∈ w.screenOff.processed ∨
      ∃ phone, e = .message phone ∧ ⟨p.1, p.2⟩ ∈ w.screenOff.messages := by
  cases h with
  | asks => exact .inl hp
  | hears => exact .inl hp
  | same => exact .inl hp
  | delivers he hmessages =>
    rcases List.mem_append.mp hp with hp | hp
    · exact .inl hp
    · refine .inr ⟨_, he, ?_⟩
      rw [List.mem_singleton.mp hp, hmessages]
      exact List.mem_cons_self

theorem Steps.sent {e : Event} {g : ScreenOffGestures} (h : w.Steps e g) (msg : Message)
    (hmsg : msg ∈ g.messages) : msg ∈ w.screenOff.messages ∨
      (∃ phone event, e = .key phone event ∧ w.IsScreenOffGesture phone event ∧
        msg = ⟨w.screenOff.gestures.length, event.scanCode⟩) ∨
      ∃ listener ∈ w.screenOff.listeners, e = .reading listener true ∧
        msg = ⟨listener.gesture, listener.scanCode⟩ := by
  cases h with
  | same => exact .inl hmsg
  | asks he hgesture =>
    rcases List.mem_append.mp hmsg with hmsg | hmsg
    · exact .inl hmsg
    · exact .inr (.inl ⟨_, _, he, hgesture, List.mem_singleton.mp hmsg⟩)
  | delivers he hmessages =>
    rw [hmessages]
    exact .inl (List.mem_cons_of_mem _ hmsg)
  | @hears listener far he hl =>
    simp only [ScreenOffGestures.hear] at hmsg
    split_ifs at hmsg with hnone hfar
    · cases hmsg
    · subst hfar
      exact .inr (.inr ⟨listener, hl, he, List.mem_singleton.mp hmsg⟩)
    · cases hmsg

theorem Inv.right (h : w.Inv) {e : Event} (hcheck : CheckOn e) (horderly : w.Orderly e) :
    w.Right e where
  once := (h.step hcheck horderly).docket.once
  own := (h.step hcheck horderly).docket.own
  refused i hi := ((h.step hcheck horderly).docket.unanswered i hi).2
  asks _ _ := (h.steps hcheck horderly).asks_of_gesture
  waits := (h.steps hcheck horderly).waits
  sent := (h.steps hcheck horderly).sent
  gated := (h.step hcheck horderly).gated
  released i _ := by
    rw [(h.step hcheck horderly).heard]
    exact (h.step hcheck horderly).leases.given_nodup.count

/-- Along every run whose steps are orderly the gate is right at every step. -/
theorem right_along (mVibrator : Bool) (events : List Event) (hcheck : ∀ e ∈ events, CheckOn e)
    (horderly : Along step Orderly (start mVibrator) events) :
    Along step Right (start mVibrator) events :=
  along_mono Inv (fun _ _ h hstep => h.step hstep.2 hstep.1)
    (fun _ _ h hstep => h.right hstep.2 hstep.1) (inv_start mVibrator) events
    (horderly.and_mem hcheck)

def standby : Phone := ⟨false, false, fun _ => some ["1"]⟩

theorem checkOn_standby (event : KeyEvent) : CheckOn (.key standby event) := by
  change isProximityEnabledOnScreenOffGesturesFP standby = some true
  decide

theorem right_along_one :
    Along step Right (start true)
      [.key standby ⟨ACTION_UP, FP_HOLD_SCANCODE⟩, .reading ⟨0, FP_HOLD_SCANCODE⟩ true,
        .message standby] := by
  refine right_along true _ ?_ ⟨fun _ => rfl, fun _ _ => by decide, trivial, trivial⟩
  simp only [List.forall_mem_cons]
  exact ⟨checkOn_standby _, trivial, trivial, nofun⟩

/-- A second gesture, made while the request of the first is pending, is answered at once. -/
def hurried : List Event :=
  [.key standby ⟨ACTION_UP, FP_HOLD_SCANCODE⟩, .callback standby .fpGestureRunnable,
    .key standby ⟨ACTION_UP, FP_LEFT_SCANCODE⟩]

theorem hurried_ungated : (∀ e ∈ hurried, CheckOn e) ∧
    ¬ Along step Right (start true) hurried := by
  constructor
  · simp only [hurried, List.forall_mem_cons]
    exact ⟨checkOn_standby _, trivial, checkOn_standby _, nofun⟩
  · intro h
    obtain ⟨-, -, hlast, -⟩ := h
    exact absurd hlast.gated (by decide)

end ProximityGate
end Cedric.LineageActions
