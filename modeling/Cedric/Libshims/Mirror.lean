import Cedric.Libshims.Ownership

/-!
# What a mixer shows of its card

The driver only adds controls, behind those it has. A mixer shows the first of them as the
card does, however its updates ended, and all of them after an update that succeeded.
-/

namespace Cedric.Libshims

open Sys

def MixerCtl.view (ctl : MixerCtl) : Option ElemInfo × Option (List (Option (List Char))) :=
  (ctl.info, ctl.ename.map fun names => names.2.map (Option.map Prod.snd))

def ElemInfo.shown (e : ElemInfo) : Option ElemInfo × Option (List (Option (List Char))) :=
  (some e, if e.type = .ENUMERATED then some (e.items.map some) else none)

structure Mixer.Mirrors (mixer : Mixer) (card : List ElemInfo) : Prop where
  le : mixer.count ≤ card.length
  fits : mixer.Fits
  view : mixer.controls.map MixerCtl.view = (card.take mixer.count).map ElemInfo.shown

theorem copyNames_copies (names : List (List Char)) {s s' : Sys}
    {copies : List (Option (ℕ × List Char))} (h : copyNames s names = (s', copies, true)) :
    copies.map (Option.map Prod.snd) = names.map some := by
  induction names generalizing s s' copies with
  | nil =>
    cases h
    rfl
  | cons name names ih =>
    rw [copyNames] at h
    split at h
    · cases h
    · split at h
      · cases h
      · next s₂ b halloc =>
        generalize hrest : copyNames s₂ names = r at h
        obtain ⟨s₃, copies', ok⟩ := r
        cases h
        rw [List.map_cons, List.map_cons, ih hrest]
        rfl

theorem addControl_shows {s s' : Sys} {e : ElemInfo} {ctl : MixerCtl}
    (hfind : s.card.find? (fun e' => e'.numid == e.numid) = some e)
    (h : addControl s e.numid = (s', ctl, true)) : ctl.view = e.shown := by
  rw [addControl] at h
  split at h
  · cases h
  · next s₁ hanswer =>
    rw [(answer_within hanswer).1.card, hfind] at h
    simp only at h
    split_ifs at h with htype
    · split at h
      · cases h
      · next s₂ enames halloc =>
        generalize hcopy : copyNames s₂ e.items = r at h
        obtain ⟨s₃, names, ok⟩ := r
        cases h
        rw [MixerCtl.view, ElemInfo.shown, if_pos htype, ← copyNames_copies e.items hcopy]
        rfl
    · cases h
      rw [ElemInfo.shown, if_neg htype]
      rfl

theorem addEach_shows (elems : List ElemInfo) {s s' : Sys} {owned : Multiset ℕ}
    {slots : List MixerCtl} {n : ℕ} {ok : Bool} (ho : s.memory.Owns owned)
    (hfind : ∀ e ∈ elems, s.card.find? (fun e' => e'.numid == e.numid) = some e)
    (h : addEach s (elems.map ElemInfo.numid) = (s', slots, n, ok)) :
    (slots.take n).map MixerCtl.view = (elems.take n).map ElemInfo.shown ∧ n ≤ elems.length ∧
      (ok = true → n = elems.length) := by
  induction elems generalizing s s' slots n ok owned with
  | nil =>
    cases h
    exact ⟨rfl, Nat.le_refl 0, fun _ => rfl⟩
  | cons e elems ih =>
    rw [List.map_cons, addEach] at h
    split at h
    · cases h
      exact ⟨rfl, Nat.zero_le _, fun hok => absurd hok Bool.false_ne_true⟩
    · next s₁ ctl hadd =>
      obtain ⟨hwithin, ho₁⟩ := addControl_owns hadd ho
      have hview := addControl_shows (hfind e List.mem_cons_self) hadd
      generalize hrest : addEach s₁ (elems.map ElemInfo.numid) = r at h
      obtain ⟨s₂, slots', n', ok'⟩ := r
      cases h
      obtain ⟨hviews, hle, hall⟩ := ih ho₁
        (fun e' he' => hwithin.card ▸ hfind e' (List.mem_cons_of_mem e he')) hrest
      refine ⟨?_, Nat.succ_le_succ hle, fun hok => congrArg Nat.succ (hall hok)⟩
      rw [List.take_succ_cons, List.take_succ_cons, List.map_cons, List.map_cons, hview, hviews]

theorem find_numid {card : List ElemInfo} (hnumids : (card.map ElemInfo.numid).Nodup)
    {e : ElemInfo} (he : e ∈ card) : card.find? (fun e' => e'.numid == e.numid) = some e := by
  induction card with
  | nil => exact absurd he List.not_mem_nil
  | cons e' card ih =>
    obtain ⟨hne, hnumids'⟩ := List.nodup_cons.mp hnumids
    obtain rfl | he := List.mem_cons.mp he
    · exact List.find?_cons_of_pos (by simp)
    · have hdiffers : e'.numid ≠ e.numid := fun heq => hne (heq ▸ List.mem_map_of_mem he)
      rw [List.find?_cons_of_neg (by simpa using hdiffers)]
      exact ih hnumids' he

theorem Updates.mirrors {s : Sys} {mixer mixer' : Mixer} {ok : Bool}
    (h : Updates s mixer mixer' ok) (hnumids : (s.card.map ElemInfo.numid).Nodup)
    (hmirrors : mixer.Mirrors s.card) :
    mixer'.Mirrors s.card ∧ (ok = true → mixer'.count = s.card.length) := by
  have hfits := h.fits hmirrors.fits
  have hkept {ctl : ℕ × List MixerCtl} {k : ℕ}
      (hslots : ctl.2 = mixer.controls ++ List.replicate k MixerCtl.zero) :
      ctl.2.take mixer.count = mixer.controls := by
    rw [hslots]
    exact List.take_left' (List.length_take_of_le hmirrors.fits)
  cases h with
  | unchanged _ hall => exact ⟨hmirrors, hall⟩
  | regrown ctl hslots =>
    refine ⟨⟨hmirrors.le, hfits, ?_⟩, fun hok => absurd hok Bool.false_ne_true⟩
    exact (congrArg (List.map MixerCtl.view) (hkept hslots)).trans hmirrors.view
  | @extended ctl hslots s₁ s₂ hcard owned ho slots n ok heach =>
    have hfind : ∀ e ∈ s.card.drop mixer.count,
        s₁.card.find? (fun e' => e'.numid == e.numid) = some e := by
      intro e he
      rw [hcard]
      exact find_numid hnumids (List.mem_of_mem_drop he)
    obtain ⟨hviews, hle, hall⟩ := addEach_shows _ ho hfind heach
    rw [List.length_drop] at hle hall
    have hcount := hmirrors.le
    refine ⟨⟨?_, hfits, ?_⟩, fun hok => ?_⟩
    · change mixer.count + n ≤ s.card.length
      omega
    · change List.map MixerCtl.view ((ctl.2.take mixer.count ++ slots).take (mixer.count + n)) =
        (s.card.take (mixer.count + n)).map ElemInfo.shown
      rw [take_extended (count_le_regrown hmirrors.fits hslots), hkept hslots, List.map_append,
        hmirrors.view, hviews, ← List.map_append, List.take_add]
    · change mixer.count + n = s.card.length
      have := hall hok
      omega

theorem Mixer.Mirrors.grown {mixer : Mixer} {card : List ElemInfo} (h : mixer.Mirrors card)
    (elems : List ElemInfo) : mixer.Mirrors (card ++ elems) where
  le := Nat.le_trans h.le (by rw [List.length_append]; exact Nat.le_add_right _ _)
  fits := h.fits
  view := by rw [List.take_append_of_le_length h.le, h.view]

/-- A caller finds in the slot what the card says of the control. -/
structure MixerCtl.ReadsAs (ctl : MixerCtl) (e : ElemInfo) : Prop where
  info : ctl.info = some e
  enums : ∀ enumId, mixerCtlGetEnumString ctl enumId =
    if e.type = .ENUMERATED then e.items[enumId]? else none

/-- The controls that a caller finds, by their places and by their names. -/
structure Mixer.Reads (mixer : Mixer) (card : List ElemInfo) : Prop where
  num : mixerGetNumCtls mixer ≤ card.length
  get : ∀ id, Option.Rel MixerCtl.ReadsAs (mixerGetCtl mixer id)
    (card.take (mixerGetNumCtls mixer))[id]?
  byName : ∀ name, Option.Rel MixerCtl.ReadsAs (mixerGetCtlByName mixer name)
    ((card.take (mixerGetNumCtls mixer)).find? fun e => e.name == name)

theorem readsAs_of_view {ctl : MixerCtl} {e : ElemInfo} (h : ctl.view = e.shown) :
    ctl.ReadsAs e := by
  obtain ⟨info, ename⟩ := ctl
  obtain ⟨rfl, hnames⟩ := Prod.mk.inj h
  refine ⟨rfl, fun enumId => ?_⟩
  split_ifs at hnames ⊢ with htype
  · obtain ⟨names, rfl, hcopies⟩ := Option.map_eq_some_iff.mp hnames
    have hread : names.2[enumId]?.join.map Prod.snd = e.items[enumId]? := by
      have hat := congrArg (·[enumId]?.join) hcopies
      simp only [List.getElem?_map, Option.join_map_eq_map_join] at hat
      exact hat.trans (by cases e.items[enumId]? <;> rfl)
    by_cases hitem : enumId < e.items.length
    · exact (if_pos ⟨congrArg some htype, hitem⟩).trans hread
    · rw [List.getElem?_eq_none (Nat.le_of_not_lt hitem)]
      exact if_neg fun hc => hitem hc.2
  · exact if_neg fun hc => htype (Option.some.inj hc.1)

theorem forall₂_of_view {ctls : List MixerCtl} {elems : List ElemInfo}
    (h : ctls.map MixerCtl.view = elems.map ElemInfo.shown) :
    List.Forall₂ MixerCtl.ReadsAs ctls elems := by
  induction ctls generalizing elems with
  | nil =>
    obtain rfl := List.map_eq_nil_iff.mp h.symm
    exact .nil
  | cons ctl ctls ih =>
    obtain ⟨e, elems', rfl, he, hrest⟩ := List.map_eq_cons_iff.mp h.symm
    exact .cons (readsAs_of_view he.symm) (ih hrest.symm)

theorem rel_getElem? {α β : Type} {R : α → β → Prop} {xs : List α} {ys : List β}
    (h : List.Forall₂ R xs ys) (i : ℕ) : Option.Rel R xs[i]? ys[i]? := by
  induction h generalizing i with
  | nil => exact .none
  | cons hhead _ ih =>
    cases i with
    | zero => exact .some hhead
    | succ i => exact ih i

theorem rel_find? {α β : Type} {R : α → β → Prop} {xs : List α} {ys : List β} {p : α → Bool}
    {q : β → Bool} (hpq : ∀ x y, R x y → p x = q y) (h : List.Forall₂ R xs ys) :
    Option.Rel R (xs.find? p) (ys.find? q) := by
  induction h with
  | nil => exact .none
  | @cons x y _ _ hhead _ ih =>
    rw [List.find?_cons, List.find?_cons, hpq x y hhead]
    cases q y with
    | true => exact .some hhead
    | false => exact ih

theorem Mixer.Mirrors.reads {mixer : Mixer} {card : List ElemInfo} (h : mixer.Mirrors card) :
    mixer.Reads card := by
  have hforall := forall₂_of_view h.view
  refine ⟨h.le, fun id => ?_, fun name => ?_⟩
  · have hget : mixerGetCtl mixer id = mixer.controls[id]? := by
      rw [mixerGetCtl, Mixer.controls, List.getElem?_take]
    rw [hget]
    exact rel_getElem? hforall id
  · refine rel_find? (fun ctl e hreads => ?_) hforall
    rw [hreads.info]
    rfl

def Event.elems : Event → List ElemInfo
  | .added elems => elems
  | .opened _ _ | .updated _ _ | .closed _ => []

theorem Opens.mirrors {s : Sys} {mixer : Mixer} (h : Opens s mixer)
    (hnumids : (s.card.map ElemInfo.numid).Nodup) :
    mixer.Mirrors s.card ∧ mixer.count = s.card.length := by
  obtain ⟨s₁, block, fd, hcard, hupdates⟩ := h
  rw [← hcard] at hnumids ⊢
  have hblank : Mixer.Mirrors ⟨block, fd, none, 0⟩ s₁.card := ⟨Nat.zero_le _, Nat.zero_le _, rfl⟩
  obtain ⟨hmirrors, hall⟩ := hupdates.mirrors hnumids hblank
  exact ⟨hmirrors, hall rfl⟩

namespace Process

structure Mirrors (p : Process) (elems : List ElemInfo) : Prop where
  card : p.sys.card = elems
  mirrors : ∀ mixer ∈ p.mixers, mixer.Mirrors elems

variable {p : Process} {memory : Multiset ℕ} {card : List ElemInfo}

theorem Holds.mixer_owns (h : p.Holds memory) {i : ℕ} {mixer : Mixer}
    (hmixer : p.mixers[i]? = some mixer) :
    ∃ others : Multiset ℕ, p.sys.memory.Owns (mixer.owned + others) := by
  obtain ⟨before, after, hsplit, -⟩ := exists_split hmixer
  have ho := h.memory
  rw [hsplit, owned_split, Multiset.add_assoc] at ho
  exact ⟨_, ho⟩

theorem Mirrors.step (h : p.Mirrors card) (hholds : p.Holds memory) (e : Event)
    (hnumids : (card.map ElemInfo.numid).Nodup) : (p.step e).Mirrors (card ++ e.elems) := by
  obtain ⟨rfl, hmirrors⟩ := h
  cases e with
  | opened cardInfo answers =>
    rw [Process.step, Event.elems, List.append_nil]
    generalize hopen : mixerOpen { p.sys with answers := answers } cardInfo = r
    obtain ⟨s, mixer⟩ := r
    obtain ⟨hcard, hopens, -⟩ := mixerOpen_owns hopen hholds.memory
    refine ⟨hcard, fun opened hopened => ?_⟩
    obtain hopened | hopened := List.mem_append.mp hopened
    · exact hmirrors opened hopened
    · exact ((hopens opened (Option.mem_toList.mp hopened)).mirrors hnumids).1
  | updated i answers =>
    rw [Process.step, Event.elems, List.append_nil]
    split
    · exact ⟨rfl, hmirrors⟩
    · next mixer hmixer =>
      have hmirror := hmirrors mixer (List.mem_of_getElem? hmixer)
      obtain ⟨others, ho⟩ := hholds.mixer_owns hmixer
      generalize hadd : addControls { p.sys with answers := answers } mixer = r
      obtain ⟨s, mixer', ok⟩ := r
      obtain ⟨hwithin, -, hupdates⟩ := addControls_updates hadd hmirror.fits ho
      refine ⟨hwithin.card, fun updated hupdated => ?_⟩
      obtain hbefore | rfl := List.mem_or_eq_of_mem_set hupdated
      · exact hmirrors updated hbefore
      · exact (hupdates.mirrors hnumids hmirror).1
  | closed i =>
    rw [Process.step, Event.elems, List.append_nil]
    split
    · exact ⟨rfl, hmirrors⟩
    · next mixer hmixer =>
      obtain ⟨others, ho⟩ := hholds.mixer_owns hmixer
      refine ⟨(mixerClose_owns ho).1, fun kept hkept => ?_⟩
      exact hmirrors kept (List.mem_of_mem_eraseIdx hkept)
  | added elems => exact ⟨rfl, fun mixer hmixer => (hmirrors mixer hmixer).grown elems⟩

theorem mirrors_run (s : Sys) (ho : s.memory.Owns memory) (events : List Event)
    (hnumids : ((s.card ++ events.flatMap Event.elems).map ElemInfo.numid).Nodup) :
    (events.foldl Process.step ⟨s, []⟩).Holds memory ∧
      (events.foldl Process.step ⟨s, []⟩).Mirrors (s.card ++ events.flatMap Event.elems) := by
  induction events using List.reverseRecOn with
  | nil =>
    refine ⟨⟨fun _ hmixer => absurd hmixer List.not_mem_nil, ?_⟩, ?_⟩
    · exact (Multiset.zero_add memory).symm ▸ ho
    · exact ⟨(List.append_nil _).symm, fun _ hmixer => absurd hmixer List.not_mem_nil⟩
  | append_singleton past e ih =>
    have hcard : s.card ++ (past ++ [e]).flatMap Event.elems =
        s.card ++ past.flatMap Event.elems ++ e.elems := by
      rw [List.flatMap_append, List.flatMap_singleton, List.append_assoc]
    rw [hcard] at hnumids ⊢
    rw [List.map_append] at hnumids
    obtain ⟨hholds, hmirrors⟩ := ih (List.nodup_append.mp hnumids).1
    rw [List.foldl_append]
    exact ⟨(hholds.step 0 e).1, hmirrors.step hholds e (List.nodup_append.mp hnumids).1⟩

/-- In every run a caller reads of the card what it says, whatever fails; a mixer that is opened,
or updated without a failure, has all its controls. -/
theorem reads_run (s : Sys) {memory : Multiset ℕ} (ho : s.memory.Owns memory) (events : List Event)
    (hnumids : ((s.card ++ events.flatMap Event.elems).map ElemInfo.numid).Nodup) :
    (∀ mixer ∈ (events.foldl Process.step ⟨s, []⟩).mixers,
      mixer.Reads (s.card ++ events.flatMap Event.elems) ∧
      ∀ answers s' mixer', addControls
          { (events.foldl Process.step ⟨s, []⟩).sys with answers := answers } mixer =
          (s', mixer', true) →
        mixer'.Reads (s.card ++ events.flatMap Event.elems) ∧
        mixerGetNumCtls mixer' = (s.card ++ events.flatMap Event.elems).length) ∧
    ∀ cardInfo answers s' mixer', mixerOpen
        { (events.foldl Process.step ⟨s, []⟩).sys with answers := answers } cardInfo =
        (s', some mixer') →
      mixer'.Reads (s.card ++ events.flatMap Event.elems) ∧
      mixerGetNumCtls mixer' = (s.card ++ events.flatMap Event.elems).length := by
  obtain ⟨hholds, hcard, hmirrors⟩ := mirrors_run s ho events hnumids
  rw [← hcard] at hnumids hmirrors ⊢
  refine ⟨fun mixer hmixer => ⟨(hmirrors mixer hmixer).reads, ?_⟩, ?_⟩
  · intro answers s' mixer' hadd
    obtain ⟨i, hi⟩ := List.getElem?_of_mem hmixer
    obtain ⟨others, ho⟩ := hholds.mixer_owns hi
    obtain ⟨-, -, hupdates⟩ := addControls_updates hadd (hmirrors mixer hmixer).fits ho
    obtain ⟨hmirrors', hall⟩ := hupdates.mirrors hnumids (hmirrors mixer hmixer)
    exact ⟨hmirrors'.reads, hall rfl⟩
  · intro cardInfo answers s' mixer' hopen
    obtain ⟨-, hopens, -⟩ := mixerOpen_owns hopen hholds.memory
    obtain ⟨hmirrors', hall⟩ := (hopens mixer' rfl).mirrors hnumids
    exact ⟨hmirrors'.reads, hall⟩

/-- The update that was cut short, and the one after it. -/
theorem reads_run_interrupted :
    ∃ mixer, ((interrupted.take 4).foldl Process.step ⟨unused, []⟩).mixers = [mixer] ∧
      mixer.Reads [headset] := by
  obtain ⟨hreads, -⟩ := reads_run unused
    ⟨rfl, Multiset.nodup_zero, fun _ hb => absurd hb (Multiset.notMem_zero _), rfl⟩
    (interrupted.take 4) (by decide)
  exact ⟨_, rfl, (hreads _ (List.mem_singleton_self _)).1⟩

end Process
end Cedric.Libshims
