import Cedric.Libshims.Mixer
import Mathlib.Algebra.Order.Group.Multiset
import Mathlib.Data.List.Induction
import Mathlib.Tactic.Abel

/-!
# Who owns the blocks of a mixer

A mixer owns its own block, the array of its controls and, for each control that counts, the
array of names and the names. The slots behind them own nothing, also one that keeps the
pointers of a control that was cleaned up.
-/

namespace Cedric.Libshims

open Sys

structure Within (s s' : Sys) : Prop where
  card : s'.card = s.card
  files : s'.files = s.files

theorem Within.trans {s s' s'' : Sys} (h : Within s s') (h' : Within s' s'') : Within s s'' :=
  ⟨h'.card.trans h.card, h'.files.trans h.files⟩

section Calls

variable {s s' : Sys} {owned : Multiset ℕ} {b : ℕ}

theorem answer_within {ok : Bool} (h : s.answer = (s', ok)) :
    Within s s' ∧ s'.memory = s.memory := by
  rw [answer] at h
  split at h
  · obtain ⟨rfl, -⟩ := Prod.ext_iff.mp h
    exact ⟨⟨rfl, rfl⟩, rfl⟩
  · obtain ⟨rfl, -⟩ := Prod.ext_iff.mp h
    exact ⟨⟨rfl, rfl⟩, rfl⟩

theorem answer_owns {ok : Bool} (h : s.answer = (s', ok)) (ho : s.memory.Owns owned) :
    s'.memory.Owns owned := (answer_within h).2 ▸ ho

theorem alloc_none (h : s.alloc = (s', none)) (ho : s.memory.Owns owned) :
    Within s s' ∧ s'.memory.Owns owned := by
  rw [alloc] at h
  split at h
  · next s₁ hanswer =>
    obtain ⟨rfl, -⟩ := Prod.ext_iff.mp h
    exact ⟨(answer_within hanswer).1, answer_owns hanswer ho⟩
  · cases (Prod.ext_iff.mp h).2

theorem alloc_some (h : s.alloc = (s', some b)) (ho : s.memory.Owns owned) :
    Within s s' ∧ s'.memory.Owns (b ::ₘ owned) := by
  rw [alloc] at h
  split at h
  · cases (Prod.ext_iff.mp h).2
  · next s₁ hanswer =>
    obtain ⟨rfl, hb⟩ := Prod.ext_iff.mp h
    obtain ⟨hcard, hfiles⟩ := (answer_within hanswer).1
    refine ⟨⟨hcard, hfiles⟩, ?_⟩
    rw [← Option.some.inj hb]
    exact (answer_owns hanswer ho).alloc

theorem free_owns (h : s.memory.Owns (b ::ₘ owned)) :
    Within s (s.free b) ∧ (s.free b).memory.Owns owned := ⟨⟨rfl, rfl⟩, h.release⟩

theorem freeAll_owns (bs : List ℕ) {s : Sys} (h : s.memory.Owns (↑bs + owned)) :
    Within s (bs.foldl Sys.free s) ∧ (bs.foldl Sys.free s).memory.Owns owned := by
  induction bs generalizing s with
  | nil => exact ⟨⟨rfl, rfl⟩, (Multiset.zero_add owned) ▸ h⟩
  | cons b bs ih =>
    obtain ⟨hwithin, howns⟩ := ih (free_owns (Multiset.cons_add b ↑bs owned ▸ h)).2
    exact ⟨⟨hwithin.card, hwithin.files⟩, howns⟩

end Calls

def copied (names : List (Option (ℕ × List Char))) : List ℕ :=
  names.filterMap (Option.map Prod.fst)

def ownedBy (controls : List MixerCtl) : Multiset ℕ := ↑(controls.flatMap MixerCtl.blocks)

theorem ownedBy_cons (ctl : MixerCtl) (controls : List MixerCtl) :
    ownedBy (ctl :: controls) = ↑ctl.blocks + ownedBy controls := by
  rw [ownedBy, List.flatMap_cons, ← Multiset.coe_add]
  rfl

theorem ownedBy_append (controls controls' : List MixerCtl) :
    ownedBy (controls ++ controls') = ownedBy controls + ownedBy controls' := by
  rw [ownedBy, List.flatMap_append, ← Multiset.coe_add]
  rfl

theorem copied_none (names : List (List Char)) : copied (none :: names.map fun _ => none) = [] := by
  simp [copied]

theorem copyNames_owns (names : List (List Char)) {s s' : Sys} {owned : Multiset ℕ}
    {copies : List (Option (ℕ × List Char))} {ok : Bool}
    (h : copyNames s names = (s', copies, ok)) (ho : s.memory.Owns owned) :
    Within s s' ∧ s'.memory.Owns (↑(copied copies) + owned) := by
  induction names generalizing s s' copies ok owned with
  | nil =>
    cases h
    exact ⟨⟨rfl, rfl⟩, (Multiset.zero_add owned).symm ▸ ho⟩
  | cons name names ih =>
    rw [copyNames] at h
    split at h
    · next s₁ hanswer =>
      cases h
      rw [copied_none]
      exact ⟨(answer_within hanswer).1, (Multiset.zero_add owned).symm ▸ answer_owns hanswer ho⟩
    · next s₁ hanswer =>
      have ho₁ := answer_owns hanswer ho
      split at h
      · next s₂ halloc =>
        cases h
        rw [copied_none]
        obtain ⟨hwithin, ho₂⟩ := alloc_none halloc ho₁
        exact ⟨(answer_within hanswer).1.trans hwithin, (Multiset.zero_add owned).symm ▸ ho₂⟩
      · next s₂ b halloc =>
        obtain ⟨hwithin, ho₂⟩ := alloc_some halloc ho₁
        generalize hrest : copyNames s₂ names = r at h
        obtain ⟨s₃, copies', ok'⟩ := r
        cases h
        obtain ⟨hwithin', ho₃⟩ := ih hrest ho₂
        refine ⟨((answer_within hanswer).1.trans hwithin).trans hwithin', ?_⟩
        rw [Multiset.add_cons, ← Multiset.cons_add] at ho₃
        exact ho₃

theorem blocks_array (info : Option ElemInfo) (b : ℕ) (names : List (Option (ℕ × List Char))) :
    (↑(MixerCtl.blocks ⟨info, some (b, names)⟩) : Multiset ℕ) = b ::ₘ ↑(copied names) :=
  Multiset.coe_eq_coe.mpr (List.perm_append_singleton b (copied names))

theorem addControl_owns {s s' : Sys} {numid : ℕ} {ctl : MixerCtl} {ok : Bool} {owned : Multiset ℕ}
    (h : addControl s numid = (s', ctl, ok)) (ho : s.memory.Owns owned) :
    Within s s' ∧ s'.memory.Owns (↑ctl.blocks + owned) := by
  have hnone : ∀ info : Option ElemInfo,
      (↑(MixerCtl.blocks ⟨info, none⟩) + owned : Multiset ℕ) = owned :=
    fun _ => Multiset.zero_add owned
  rw [addControl] at h
  split at h
  · next s₁ hanswer =>
    cases h
    exact ⟨(answer_within hanswer).1, (hnone none).symm ▸ answer_owns hanswer ho⟩
  · next s₁ hanswer =>
    have ho₁ := answer_owns hanswer ho
    have hwithin := (answer_within hanswer).1
    split at h
    · cases h
      exact ⟨hwithin, (hnone none).symm ▸ ho₁⟩
    · next ei hfind =>
      split at h
      · split at h
        · next s₂ halloc =>
          cases h
          obtain ⟨hwithin', ho₂⟩ := alloc_none halloc ho₁
          exact ⟨hwithin.trans hwithin', (hnone _).symm ▸ ho₂⟩
        · next s₂ enames halloc =>
          obtain ⟨hwithin', ho₂⟩ := alloc_some halloc ho₁
          generalize hcopy : copyNames s₂ ei.items = r at h
          obtain ⟨s₃, names, ok'⟩ := r
          cases h
          obtain ⟨hwithin'', ho₃⟩ := copyNames_owns ei.items hcopy ho₂
          refine ⟨(hwithin.trans hwithin').trans hwithin'', ?_⟩
          rw [Multiset.add_cons, ← Multiset.cons_add, ← blocks_array (some ei)] at ho₃
          exact ho₃
      · cases h
        exact ⟨hwithin, (hnone _).symm ▸ ho₁⟩

theorem addEach_owns (numids : List ℕ) {s s' : Sys} {owned : Multiset ℕ} {slots : List MixerCtl}
    {n : ℕ} {ok : Bool} (h : addEach s numids = (s', slots, n, ok)) (ho : s.memory.Owns owned) :
    Within s s' ∧ s'.memory.Owns (ownedBy (slots.take n) + owned) ∧ n ≤ slots.length := by
  induction numids generalizing s s' slots n ok owned with
  | nil =>
    cases h
    exact ⟨⟨rfl, rfl⟩, (Multiset.zero_add owned).symm ▸ ho, Nat.le_refl 0⟩
  | cons numid numids ih =>
    rw [addEach] at h
    split at h
    · next s₁ ctl hadd =>
      cases h
      obtain ⟨hwithin, ho₁⟩ := addControl_owns hadd ho
      obtain ⟨hwithin', ho₂⟩ := freeAll_owns ctl.blocks ho₁
      exact ⟨hwithin.trans hwithin', (Multiset.zero_add owned).symm ▸ ho₂, Nat.zero_le _⟩
    · next s₁ ctl hadd =>
      obtain ⟨hwithin, ho₁⟩ := addControl_owns hadd ho
      generalize hrest : addEach s₁ numids = r at h
      obtain ⟨s₂, slots', n', ok'⟩ := r
      cases h
      obtain ⟨hwithin', ho₂, hle⟩ := ih hrest ho₁
      refine ⟨hwithin.trans hwithin', ?_, Nat.succ_le_succ hle⟩
      rw [List.take_succ_cons, ownedBy_cons, Multiset.add_assoc]
      rwa [add_left_comm] at ho₂

theorem cleanupAll_owns (controls : List MixerCtl) {s : Sys} {owned : Multiset ℕ}
    (ho : s.memory.Owns (ownedBy controls + owned)) :
    Within s (controls.foldl mixerCleanupControl s) ∧
      (controls.foldl mixerCleanupControl s).memory.Owns owned := by
  induction controls generalizing s with
  | nil => exact ⟨⟨rfl, rfl⟩, (Multiset.zero_add owned) ▸ ho⟩
  | cons ctl controls ih =>
    rw [ownedBy_cons, Multiset.add_assoc] at ho
    obtain ⟨hwithin, ho₁⟩ := freeAll_owns ctl.blocks ho
    obtain ⟨hwithin', ho₂⟩ := ih ho₁
    exact ⟨hwithin.trans hwithin', ho₂⟩

def Mixer.owned (mixer : Mixer) : Multiset ℕ :=
  ownedBy mixer.controls + (↑(mixer.ctl.map Prod.fst).toList + {mixer.block})

def Mixer.Fits (mixer : Mixer) : Prop := mixer.count ≤ mixer.slots.length

theorem freeArray_owns {s : Sys} {owned : Multiset ℕ} (array : Option ℕ)
    (ho : s.memory.Owns (↑array.toList + owned)) :
    Within s (array.elim s s.free) ∧ (array.elim s s.free).memory.Owns owned := by
  cases array with
  | none => exact ⟨⟨rfl, rfl⟩, (Multiset.zero_add owned) ▸ ho⟩
  | some b => exact free_owns ((Multiset.singleton_add b owned) ▸ ho)

theorem mixerClose_owns {s : Sys} {mixer : Mixer} {owned : Multiset ℕ}
    (ho : s.memory.Owns (mixer.owned + owned)) :
    (mixerClose s mixer).card = s.card ∧ (mixerClose s mixer).files = s.files.release mixer.fd ∧
      (mixerClose s mixer).memory.Owns owned := by
  rw [Mixer.owned, Multiset.add_assoc, Multiset.add_assoc] at ho
  obtain ⟨hwithin₁, ho₁⟩ := cleanupAll_owns (s := s.close mixer.fd) mixer.controls ho
  obtain ⟨hwithin₂, ho₂⟩ := freeArray_owns _ ho₁
  obtain ⟨hwithin₃, ho₃⟩ := free_owns ho₂
  have hwithin := (hwithin₁.trans hwithin₂).trans hwithin₃
  exact ⟨hwithin.card, hwithin.files, ho₃⟩

theorem mixerReallocZ_owns {s s' : Sys} {mixer : Mixer} {newnum : ℕ} {owned : Multiset ℕ}
    {ctl : Option (ℕ × List MixerCtl)} (h : mixerReallocZ s mixer mixer.count newnum = (s', ctl))
    (hfits : mixer.Fits) (ho : s.memory.Owns (mixer.owned + owned)) :
    Within s s' ∧ match ctl with
      | none => s'.memory.Owns (mixer.owned + owned)
      | some ctl => s'.memory.Owns ({ mixer with ctl := some ctl }.owned + owned) ∧
        ctl.2 = mixer.controls ++ List.replicate (newnum - mixer.count) .zero := by
  rw [mixerReallocZ] at h
  split at h
  · next s₁ halloc =>
    cases h
    exact alloc_none halloc ho
  · next s₁ b halloc =>
    cases h
    obtain ⟨hwithin, ho₁⟩ := alloc_some halloc ho
    have hsplit : b ::ₘ (mixer.owned + owned) = ↑(mixer.ctl.map Prod.fst).toList +
        (ownedBy mixer.controls + ({b} + {mixer.block}) + owned) := by
      rw [Mixer.owned, ← Multiset.singleton_add]
      abel
    obtain ⟨hwithin', ho₂⟩ := freeArray_owns _ (hsplit ▸ ho₁)
    refine ⟨hwithin.trans hwithin', ?_, rfl⟩
    have hcontrols : (mixer.slots.take mixer.count ++
        List.replicate (newnum - mixer.count) MixerCtl.zero).take mixer.count = mixer.controls :=
      List.take_left' (List.length_take_of_le hfits)
    rw [← hcontrols] at ho₂
    exact ho₂

theorem take_extended {slots added : List MixerCtl} {count : ℕ} (hle : count ≤ slots.length)
    (n : ℕ) : (slots.take count ++ added).take (count + n) = slots.take count ++ added.take n := by
  have hlength := List.length_take_of_le hle
  calc (slots.take count ++ added).take (count + n)
    _ = (slots.take count ++ added).take ((slots.take count).length + n) := by rw [hlength]
    _ = slots.take count ++ added.take n := List.take_length_add_append n

theorem extended_owned (mixer : Mixer) {ctl : ℕ × List MixerCtl} {added : List MixerCtl} {n : ℕ}
    (hfits : mixer.count ≤ ctl.2.length) (hn : n ≤ added.length) :
    ownedBy (added.take n) + { mixer with ctl := some ctl }.owned =
        { mixer with
          ctl := some (ctl.1, ctl.2.take mixer.count ++ added), count := mixer.count + n }.owned ∧
      Mixer.Fits { mixer with
        ctl := some (ctl.1, ctl.2.take mixer.count ++ added), count := mixer.count + n } := by
  constructor
  · change ownedBy (added.take n) + (ownedBy (ctl.2.take mixer.count) + ({ctl.1} + {mixer.block})) =
      ownedBy ((ctl.2.take mixer.count ++ added).take (mixer.count + n)) +
        ({ctl.1} + {mixer.block})
    rw [take_extended hfits, ownedBy_append]
    abel
  · change mixer.count + n ≤ (ctl.2.take mixer.count ++ added).length
    rw [List.length_append, List.length_take_of_le hfits]
    exact Nat.add_le_add_left hn _

/-- How far an update gets: nowhere, to a larger array, or through some of the new controls. -/
inductive Updates (s : Sys) (mixer : Mixer) : Mixer → Bool → Prop
  | unchanged (ok : Bool) (h : ok = true → mixer.count = s.card.length) : Updates s mixer mixer ok
  | regrown (ctl : ℕ × List MixerCtl)
      (hslots : ctl.2 = mixer.controls ++
        List.replicate (s.card.length - mixer.count) MixerCtl.zero) :
      Updates s mixer { mixer with ctl := some ctl } false
  | extended (ctl : ℕ × List MixerCtl)
      (hslots : ctl.2 = mixer.controls ++
        List.replicate (s.card.length - mixer.count) MixerCtl.zero)
      {s₁ s₂ : Sys} (hcard : s₁.card = s.card) {owned : Multiset ℕ} (ho : s₁.memory.Owns owned)
      {slots : List MixerCtl} {n : ℕ} {ok : Bool}
      (heach : addEach s₁ ((s.card.drop mixer.count).map ElemInfo.numid) = (s₂, slots, n, ok)) :
      Updates s mixer { mixer with
        ctl := some (ctl.1, ctl.2.take mixer.count ++ slots), count := mixer.count + n } ok

section Updates

variable {s s' : Sys} {mixer mixer' : Mixer} {ok : Bool} {ctl : ℕ × List MixerCtl} {k : ℕ}

theorem count_le_regrown (hfits : mixer.Fits)
    (hslots : ctl.2 = mixer.controls ++ List.replicate k MixerCtl.zero) :
    mixer.count ≤ ctl.2.length := by
  rw [hslots, List.length_append, Mixer.controls, List.length_take_of_le hfits]
  exact Nat.le_add_right _ _

theorem Updates.fd (h : Updates s mixer mixer' ok) : mixer'.fd = mixer.fd := by
  cases h <;> rfl

theorem Updates.fits (h : Updates s mixer mixer' ok) (hfits : mixer.Fits) : mixer'.Fits := by
  cases h with
  | unchanged _ _ => exact hfits
  | regrown ctl hslots =>
    have hle : mixer.count ≤ ctl.2.length := count_le_regrown hfits hslots
    exact hle
  | extended ctl hslots hcard ho heach =>
    exact (extended_owned mixer (count_le_regrown hfits hslots) (addEach_owns _ heach ho).2.2).2

theorem addControls_updates {owned : Multiset ℕ} (h : addControls s mixer = (s', mixer', ok))
    (hfits : mixer.Fits) (ho : s.memory.Owns (mixer.owned + owned)) :
    Within s s' ∧ s'.memory.Owns (mixer'.owned + owned) ∧ Updates s mixer mixer' ok := by
  simp only [addControls] at h
  split at h
  · next s₁ hanswer =>
    cases h
    exact ⟨(answer_within hanswer).1, answer_owns hanswer ho,
      .unchanged false fun hok => absurd hok Bool.false_ne_true⟩
  · next s₁ hanswer =>
    have ho₁ := answer_owns hanswer ho
    have hwithin₁ := (answer_within hanswer).1
    split_ifs at h with hcount
    · cases h
      exact ⟨hwithin₁, ho₁, .unchanged true fun _ => hcount.trans (congrArg _ hwithin₁.card)⟩
    · split at h
      · next s₂ hrealloc =>
        cases h
        obtain ⟨hwithin₂, ho₂⟩ := mixerReallocZ_owns hrealloc hfits ho₁
        exact ⟨hwithin₁.trans hwithin₂, ho₂,
          .unchanged false fun hok => absurd hok Bool.false_ne_true⟩
      · next s₂ ctl hrealloc =>
        obtain ⟨hwithin₂, ho₂, hslots⟩ := mixerReallocZ_owns hrealloc hfits ho₁
        rw [hwithin₁.card] at hslots
        have hwithin := hwithin₁.trans hwithin₂
        split at h
        · next s₃ halloc =>
          cases h
          obtain ⟨hwithin₃, ho₃⟩ := alloc_none halloc ho₂
          exact ⟨hwithin.trans hwithin₃, ho₃, .regrown ctl hslots⟩
        · next s₃ eid halloc =>
          obtain ⟨hwithin₃, ho₃⟩ := alloc_some halloc ho₂
          split at h
          · next s₄ hlist =>
            cases h
            obtain ⟨hwithin₄, ho₄⟩ := free_owns (answer_owns hlist ho₃)
            have hwithin' := (hwithin.trans hwithin₃).trans (answer_within hlist).1
            exact ⟨hwithin'.trans hwithin₄, ho₄, .regrown ctl hslots⟩
          · next s₄ hlist =>
            have ho₄ := answer_owns hlist ho₃
            have hwithin' := (hwithin.trans hwithin₃).trans (answer_within hlist).1
            rw [hwithin'.card] at h
            generalize heach : addEach s₄ _ = r at h
            obtain ⟨s₅, slots, n, ok'⟩ := r
            cases h
            obtain ⟨hwithin₅, ho₅, hle⟩ := addEach_owns _ heach ho₄
            rw [Multiset.add_cons] at ho₅
            obtain ⟨hwithin₆, ho₆⟩ := free_owns ho₅
            have howned := (extended_owned mixer (count_le_regrown hfits hslots) hle).1
            rw [← Multiset.add_assoc, howned] at ho₆
            exact ⟨(hwithin'.trans hwithin₅).trans hwithin₆, ho₆,
              .extended ctl hslots hwithin'.card ho₄ heach⟩

end Updates

def Opens (s : Sys) (mixer : Mixer) : Prop :=
  ∃ s₁ block fd, s₁.card = s.card ∧ Updates s₁ ⟨block, fd, none, 0⟩ mixer true

theorem Opens.fits {s : Sys} {mixer : Mixer} (h : Opens s mixer) : mixer.Fits := by
  obtain ⟨s₁, block, fd, -, hupdates⟩ := h
  exact hupdates.fits (Nat.zero_le _)

/-- A mixer that cannot be opened leaves nothing behind, except its file where the card gives no
name. -/
theorem mixerOpen_owns {s s' : Sys} {cardInfo : Bool} {mixer : Option Mixer}
    {owned : Multiset ℕ} (h : mixerOpen s cardInfo = (s', mixer)) (ho : s.memory.Owns owned) :
    s'.card = s.card ∧ (∀ opened ∈ mixer, Opens s opened) ∧
      s'.memory.Owns ((mixer.map Mixer.owned).getD 0 + owned) ∧
      ∀ files : Multiset ℕ, cardInfo = true → s.files.Owns files →
        s'.files.Owns (↑(mixer.map Mixer.fd).toList + files) := by
  have hnone : ((Option.map Mixer.owned none).getD 0 + owned : Multiset ℕ) = owned :=
    Multiset.zero_add owned
  simp only [mixerOpen] at h
  split at h
  · next s₁ hanswer =>
    cases h
    obtain ⟨hwithin, -⟩ := answer_within hanswer
    refine ⟨hwithin.card, nofun, hnone.symm ▸ answer_owns hanswer ho, fun files _ hfiles => ?_⟩
    exact (Multiset.zero_add files).symm ▸ hwithin.files ▸ hfiles
  · next s₁ hanswer =>
    obtain ⟨hwithin₁, -⟩ := answer_within hanswer
    have ho₁ := answer_owns hanswer ho
    have hopened {files : Multiset ℕ} (hfiles : s.files.Owns files) :
        s₁.files.alloc.Owns (s₁.files.next ::ₘ files) := (hwithin₁.files ▸ hfiles).alloc
    split at h
    · next s₂ halloc =>
      cases h
      obtain ⟨hwithin₂, ho₂⟩ := alloc_none halloc ho₁
      refine ⟨hwithin₂.card.trans hwithin₁.card, nofun, hnone.symm ▸ ho₂, fun files _ hfiles => ?_⟩
      have hfiles₂ : s₂.files = s₁.files.alloc := hwithin₂.files
      exact (Multiset.zero_add files).symm ▸ (hfiles₂ ▸ hopened hfiles).release
    · next s₂ block halloc =>
      obtain ⟨hwithin₂, ho₂⟩ := alloc_some halloc ho₁
      have hfiles₂ : s₂.files = s₁.files.alloc := hwithin₂.files
      have hcard₂ : s₂.card = s.card := hwithin₂.card.trans hwithin₁.card
      have hblank (fd : ℕ) : block ::ₘ owned = Mixer.owned ⟨block, fd, none, 0⟩ + owned := by
        rw [← Multiset.singleton_add]
        rfl
      split_ifs at h with hinfo
      · have hfits : Mixer.Fits ⟨block, s₁.files.next, none, 0⟩ := Nat.zero_le _
        split at h
        · next s₃ mixer hadd =>
          cases h
          obtain ⟨hwithin₃, ho₃, hupdates⟩ := addControls_updates hadd hfits (hblank _ ▸ ho₂)
          refine ⟨hwithin₃.card.trans hcard₂, ?_, ho₃, fun files _ hfiles => ?_⟩
          · rintro _ ⟨⟩
            exact ⟨s₂, block, s₁.files.next, hcard₂, hupdates⟩
          · rw [hwithin₃.files, hfiles₂, Option.map_some, hupdates.fd]
            exact hopened hfiles
        · next s₃ mixer hadd =>
          cases h
          obtain ⟨hwithin₃, ho₃, hupdates⟩ := addControls_updates hadd hfits (hblank _ ▸ ho₂)
          obtain ⟨hcard, hclosed, ho₄⟩ := mixerClose_owns ho₃
          refine ⟨hcard.trans (hwithin₃.card.trans hcard₂), nofun, hnone.symm ▸ ho₄,
            fun files _ hfiles => ?_⟩
          rw [hclosed, hwithin₃.files, hfiles₂, hupdates.fd]
          exact (Multiset.zero_add files).symm ▸ (hopened hfiles).release
      · cases h
        obtain ⟨hcard, -, ho₃⟩ := mixerClose_owns (hblank 0 ▸ ho₂)
        exact ⟨hcard.trans hcard₂, nofun, hnone.symm ▸ ho₃, fun _ htrue => absurd htrue hinfo⟩

theorem exists_split {α : Type} {xs : List α} {i : ℕ} {x : α} (h : xs[i]? = some x) :
    ∃ before after, xs = before ++ x :: after ∧ (∀ y, xs.set i y = before ++ y :: after) ∧
      xs.eraseIdx i = before ++ after := by
  induction xs generalizing i with
  | nil => simp at h
  | cons x' xs ih =>
    cases i with
    | zero =>
      obtain rfl : x' = x := by simpa using h
      exact ⟨[], xs, rfl, fun _ => rfl, rfl⟩
    | succ i =>
      obtain ⟨before, after, hsplit, hset, herase⟩ := ih (by simpa using h)
      refine ⟨x' :: before, after, by rw [hsplit]; rfl, fun y => ?_, ?_⟩
      · rw [List.set_cons_succ, hset]
        rfl
      · rw [List.eraseIdx_cons_succ, herase]
        rfl

namespace Process

def owned (mixers : List Mixer) : Multiset ℕ :=
  mixers.foldr (fun mixer rest => mixer.owned + rest) 0

def fds (mixers : List Mixer) : Multiset ℕ := ↑(mixers.map Mixer.fd)

theorem owned_append (mixers mixers' : List Mixer) :
    owned (mixers ++ mixers') = owned mixers + owned mixers' := by
  induction mixers with
  | nil => exact (Multiset.zero_add _).symm
  | cons mixer mixers ih =>
    change mixer.owned + owned (mixers ++ mixers') = mixer.owned + owned mixers + owned mixers'
    rw [ih, Multiset.add_assoc]

theorem owned_split (before after : List Mixer) (mixer : Mixer) :
    owned (before ++ mixer :: after) = mixer.owned + owned (before ++ after) := by
  rw [owned_append, owned_append]
  change owned before + (mixer.owned + owned after) = _
  abel

theorem fds_split (before after : List Mixer) (mixer : Mixer) :
    fds (before ++ mixer :: after) = mixer.fd ::ₘ fds (before ++ after) := by
  rw [fds, fds, List.map_append, List.map_cons, List.map_append]
  exact Multiset.coe_eq_coe.mpr List.perm_middle

structure Holds (p : Process) (memory : Multiset ℕ) : Prop where
  fits : ∀ mixer ∈ p.mixers, mixer.Fits
  memory : p.sys.memory.Owns (owned p.mixers + memory)

def HoldsFiles (p : Process) (files : Multiset ℕ) : Prop :=
  p.sys.files.Owns (fds p.mixers + files)

def Named : Event → Prop
  | .opened cardInfo _ => cardInfo = true
  | _ => True

variable {p : Process} {memory files : Multiset ℕ}

variable (files) in
theorem Holds.step (h : p.Holds memory) (e : Event) : (p.step e).Holds memory ∧
    (Named e → p.HoldsFiles files → (p.step e).HoldsFiles files) := by
  cases e with
  | opened cardInfo answers =>
    rw [Process.step]
    generalize hopen : mixerOpen { p.sys with answers := answers } cardInfo = r
    obtain ⟨s, mixer⟩ := r
    obtain ⟨-, hopens, ho, hfiles⟩ := mixerOpen_owns hopen h.memory
    refine ⟨⟨fun opened hopened => ?_, ?_⟩, fun hnamed hheld => ?_⟩
    · obtain hopened | hopened := List.mem_append.mp hopened
      · exact h.fits opened hopened
      · exact (hopens opened (Option.mem_toList.mp hopened)).fits
    · have howned : owned (p.mixers ++ mixer.toList) =
          (mixer.map Mixer.owned).getD 0 + owned p.mixers := by
        rw [owned_append, Multiset.add_comm]
        cases mixer with
        | none => rfl
        | some mixer => exact congrArg (· + owned p.mixers) (Multiset.add_zero mixer.owned)
      rw [howned, Multiset.add_assoc]
      exact ho
    · have hfds : fds (p.mixers ++ mixer.toList) = ↑(mixer.map Mixer.fd).toList + fds p.mixers := by
        rw [fds, List.map_append, ← Multiset.coe_add, Multiset.add_comm]
        cases mixer <;> rfl
      rw [HoldsFiles, hfds, Multiset.add_assoc]
      exact hfiles _ hnamed hheld
  | updated i answers =>
    rw [Process.step]
    split
    · exact ⟨h, fun _ hheld => hheld⟩
    · next mixer hmixer =>
      obtain ⟨before, after, hsplit, hset, -⟩ := exists_split hmixer
      generalize hadd : addControls { p.sys with answers := answers } mixer = r
      obtain ⟨s, mixer', ok⟩ := r
      have hfits : mixer.Fits := h.fits mixer (hsplit ▸ List.mem_append_right _ List.mem_cons_self)
      have ho := h.memory
      rw [hsplit, owned_split, Multiset.add_assoc] at ho
      obtain ⟨hwithin, ho', hupdates⟩ := addControls_updates hadd hfits ho
      refine ⟨⟨fun updated hupdated => ?_, ?_⟩, fun _ hheld => ?_⟩
      · obtain hbefore | rfl := List.mem_or_eq_of_mem_set hupdated
        · exact h.fits updated hbefore
        · exact hupdates.fits hfits
      · change s.memory.Owns (owned (p.mixers.set i mixer') + memory)
        rw [hset, owned_split, Multiset.add_assoc]
        exact ho'
      · rw [HoldsFiles, hsplit, fds_split] at hheld
        change s.files.Owns (fds (p.mixers.set i mixer') + files)
        rw [hset, fds_split, hupdates.fd, hwithin.files]
        exact hheld
  | closed i =>
    rw [Process.step]
    split
    · exact ⟨h, fun _ hheld => hheld⟩
    · next mixer hmixer =>
      obtain ⟨before, after, hsplit, -, herase⟩ := exists_split hmixer
      have ho := h.memory
      rw [hsplit, owned_split, Multiset.add_assoc] at ho
      obtain ⟨-, hfiles, ho'⟩ := mixerClose_owns ho
      have hfits : ∀ kept ∈ p.mixers.eraseIdx i, kept.Fits :=
        fun kept hkept => h.fits kept (List.mem_of_mem_eraseIdx hkept)
      refine ⟨⟨hfits, ?_⟩, fun _ hheld => ?_⟩
      · rw [herase]
        exact ho'
      · rw [HoldsFiles, hsplit, fds_split, Multiset.cons_add] at hheld
        rw [HoldsFiles, herase, hfiles]
        exact hheld.release
  | added elems => exact ⟨⟨h.fits, h.memory⟩, fun _ hheld => hheld⟩

/-- Whatever fails, in every run the blocks that are live are those that the open mixers own,
and nothing is freed twice; the same holds of the files where the card gives its name. -/
theorem holds_run (s : Sys) {memory files : Multiset ℕ} (hmemory : s.memory.Owns memory)
    (hfiles : s.files.Owns files) (events : List Event) :
    (events.foldl Process.step ⟨s, []⟩).Holds memory ∧
      ((∀ e ∈ events, Named e) → (events.foldl Process.step ⟨s, []⟩).HoldsFiles files) := by
  induction events using List.reverseRecOn with
  | nil =>
    refine ⟨⟨fun _ hmixer => absurd hmixer List.not_mem_nil, ?_⟩, fun _ => ?_⟩
    · exact (Multiset.zero_add memory).symm ▸ hmemory
    · rw [HoldsFiles]
      exact (Multiset.zero_add files).symm ▸ hfiles
  | append_singleton past e ih =>
    obtain ⟨hholds, hfiles⟩ := ih
    rw [List.foldl_append]
    obtain ⟨hstep, hstepFiles⟩ := hholds.step files e
    refine ⟨hstep, fun hnamed => hstepFiles (hnamed e (by simp)) (hfiles fun e' he' => ?_)⟩
    exact hnamed e' (List.mem_append_left _ he')

def headset : ElemInfo := ⟨1, ['A'], .ENUMERATED, [['o', 'n'], ['o', 'f', 'f']]⟩

def unused : Sys := ⟨[], ⟨0, 0, false⟩, ⟨{0, 1, 2}, 3, false⟩, []⟩

/-- The second name of the control that comes later cannot be copied; the mixer is updated again
and closed. -/
def interrupted : List Event :=
  [.opened true [], .added [headset],
    .updated 0 [true, true, true, true, true, true, true, true, true, false], .updated 0 [],
    .closed 0]

theorem holds_run_interrupted : (interrupted.foldl Process.step ⟨unused, []⟩).Holds 0 ∧
    (interrupted.foldl Process.step ⟨unused, []⟩).HoldsFiles {0, 1, 2} := by
  obtain ⟨hmemory, hfiles⟩ := holds_run unused
    ⟨rfl, Multiset.nodup_zero, fun _ hb => absurd hb (Multiset.notMem_zero _), rfl⟩
    ⟨rfl, by decide, by decide, rfl⟩ interrupted
  refine ⟨hmemory, hfiles ?_⟩
  simp only [interrupted, List.forall_mem_cons]
  exact ⟨rfl, trivial, trivial, trivial, trivial, fun _ he => absurd he List.not_mem_nil⟩

end Process
end Cedric.Libshims
