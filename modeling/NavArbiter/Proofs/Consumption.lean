/-
# Each sample is fused once

Fusion has seven channels, and each keeps the time of the last sample it took.  A channel takes the
sample that it is offered at the horizon if that is newer, and notes its time before the sample is
gated; what is not newer it passes over, and then it does nothing at all (`Taking`).  The height
channel has one such time for whichever source is selected.

So a time counts as taken once something of that time or later was taken (`Consumed.Covers`):

    what is covered     stays covered, and is passed over
    what is taken       was not covered before, and is afterwards

From the first line a fusion leaves nothing for another at the same or an earlier horizon, because
an earlier horizon offers nothing newer, in whatever order the samples lie.  From the second line
the times that a channel takes in a run increase.  `fused_once` says both.
-/
import NavArbiter.Proofs.CoreActions
import NavArbiter.Proofs.FilterActions
import NavArbiter.Proofs.Flight

namespace NavArbiter

/-! ## The look-up at a horizon -/

section Horizon

variable {β : Type} [Timed β] {b : History β} {k l : Time}

/-- A later horizon finds a sample where an earlier one does, and none that is older. -/
theorem History.near?_mono (hkl : k ≤ l) {x : β} (hx : b.near? k = some x) :
    ∃ y, b.near? l = some y ∧ time x ≤ time y := by
  unfold near? at hx ⊢
  generalize b.samples.reverse = newestFirst at hx ⊢
  induction newestFirst with
  | nil => cases hx
  | cons y ys ih =>
      rw [List.find?_cons] at hx ⊢
      by_cases hk : time y ≤ k
      · rw [decide_eq_true hk] at hx
        rw [decide_eq_true (Nat.le_trans hk hkl)]
        cases hx
        exact ⟨x, rfl, Nat.le_refl _⟩
      · rw [decide_eq_false hk] at hx
        by_cases hl : time y ≤ l
        -- found between the horizons, so it is younger than what the earlier one finds
        · have old : time x ≤ k := by simpa using List.find?_some hx
          rw [decide_eq_true hl]
          exact ⟨y, rfl, Nat.le_trans old (Nat.le_of_not_le hk)⟩
        · rw [decide_eq_false hl]
          exact ih hx

theorem History.time_near?_mono {t : Time} (hkl : k ≤ l) (ht : (b.near? k).map time = some t) :
    ∃ u, (b.near? l).map time = some u ∧ t ≤ u := by
  obtain ⟨x, hx, rfl⟩ := Option.map_eq_some_iff.mp ht
  obtain ⟨y, hy, hxy⟩ := near?_mono hkl hx
  exact ⟨time y, by rw [hy, Option.map_some], hxy⟩

end Horizon

/-! ## Channels -/

/-- A kind of measurement that fusion takes, with a time of its own for the last sample taken. -/
inductive Channel where
  | gps
  | vision
  | range
  | flow
  | height
  | mag
  | airspeed
  deriving DecidableEq, Repr

/-- All channels, in the order in which a fusion serves them. -/
def Channel.all : List Channel := [.gps, .vision, .range, .flow, .height, .mag, .airspeed]

namespace Consumed

/-- The time of the last sample that a channel took. -/
def last (c : Consumed) : Channel → Option Time
  | .gps => c.gps
  | .vision => c.vision
  | .range => c.range
  | .flow => c.flow
  | .height => c.height
  | .mag => c.mag
  | .airspeed => c.airspeed

/-- The memory after a channel took a sample of this time. -/
def note (c : Consumed) (t : Time) : Channel → Consumed
  | .gps => { c with gps := some t }
  | .vision => { c with vision := some t }
  | .range => { c with range := some t }
  | .flow => { c with flow := some t }
  | .height => { c with height := some t }
  | .mag => { c with mag := some t }
  | .airspeed => { c with airspeed := some t }

theorem last_note (c : Consumed) (t : Time) (k l : Channel) :
    (c.note t k).last l = if k = l then some t else c.last l := by
  cases k <;> cases l <;> rfl

/-- The channel has taken a sample of this time or a later one. -/
def Covers (c : Consumed) (k : Channel) (t : Time) : Prop := ∃ u, c.last k = some u ∧ t ≤ u

variable {c : Consumed} {k l : Channel} {t u : Time}

theorem Covers.earlier (h : c.Covers k u) (htu : t ≤ u) : c.Covers k t := by
  obtain ⟨v, hv, huv⟩ := h
  exact ⟨v, hv, Nat.le_trans htu huv⟩

theorem covers_note (c : Consumed) (k : Channel) (t : Time) : (c.note t k).Covers k t :=
  ⟨t, by rw [last_note, if_pos rfl], Nat.le_refl t⟩

/-- What was covered stays covered when something newer is taken. -/
theorem Covers.note (h : c.Covers l u) (hnew : ¬c.Covers k t) : (c.note t k).Covers l u := by
  by_cases hkl : k = l
  · subst hkl
    have hut : u ≤ t := Nat.le_of_not_le fun htu => hnew (h.earlier htu)
    exact (covers_note c k t).earlier hut
  · obtain ⟨v, hv, huv⟩ := h
    exact ⟨v, by rw [last_note, if_neg hkl, hv], huv⟩

/-- How a memory goes on to another while these samples are taken. -/
structure Progress (c c' : Consumed) (taken : List (Channel × Time)) : Prop where
  covered : ∀ {k t}, c.Covers k t → c'.Covers k t
  fresh : ∀ e ∈ taken, ¬c.Covers e.1 e.2
  noted : ∀ e ∈ taken, c'.Covers e.1 e.2
  increasing : taken.Pairwise fun d e => d.1 = e.1 → d.2 < e.2

namespace Progress

variable {c c' c'' : Consumed} {taken taken' : List (Channel × Time)}

theorem still (h : c' = c) : Progress c c' [] where
  covered hk := by rwa [h]
  fresh := nofun
  noted := nofun
  increasing := .nil

theorem note (hnew : ¬c.Covers k t) : Progress c (c.note t k) [(k, t)] where
  covered hl := hl.note hnew
  fresh e he := by
    rw [List.mem_singleton.mp he]
    exact hnew
  noted e he := by
    rw [List.mem_singleton.mp he]
    exact covers_note c k t
  increasing := List.pairwise_singleton _ _

/-- What was taken first is noted before the rest is looked at, so the rest is newer. -/
theorem append (h : Progress c c' taken) (h' : Progress c' c'' taken') :
    Progress c c'' (taken ++ taken') where
  covered hk := h'.covered (h.covered hk)
  fresh e he := (List.mem_append.mp he).elim (h.fresh e) fun he' hc =>
    h'.fresh e he' (h.covered hc)
  noted e he := (List.mem_append.mp he).elim (fun he' => h'.covered (h.noted e he')) (h'.noted e)
  increasing := by
    refine List.pairwise_append.mpr ⟨h.increasing, h'.increasing, fun d hd e he hk => ?_⟩
    refine Nat.lt_of_not_le fun hed => h'.fresh e he ?_
    rw [← hk]
    exact (h.noted d hd).earlier hed

end Progress

end Consumed

/-! ## What a channel is offered -/

section Offered

variable {α : Type}

/-- The time of the sample of a height source at a horizon. -/
def Histories.heightTime? (h : Histories α) (source : HeightSource) (horizon : Time) :
    Option Time :=
  match source with
  | .baro => (h.baro.near? horizon).map time
  | .gps => (h.gps.near? horizon).map time
  | .range => (h.range.near? horizon).map time
  | .vision => (h.vision.near? horizon).map time

/-- The time of the sample that a channel is offered: the one at the horizon, if the status lets the
channel look. -/
def FusionInput.offered (i : FusionInput α) : Channel → Option Time
  | .gps => if i.status.gps then (i.histories.gps.near? i.horizon).map time else none
  | .vision =>
      if i.status.visionPosition then (i.histories.vision.near? i.horizon).map time else none
  | .range => (i.histories.range.near? i.horizon).map time
  | .flow => if i.status.flow then (i.histories.flow.near? i.horizon).map time else none
  | .height => i.histories.heightTime? i.status.height i.horizon
  | .mag =>
      if i.status.magHeading || i.status.magThreeAxis then
        (i.histories.mag.near? i.horizon).map time
      else none
  | .airspeed => if i.status.inAir then (i.histories.airspeed.near? i.horizon).map time else none

/-- An earlier horizon offers nothing newer. -/
theorem FusionInput.offered_mono {s : Status} {h : Histories α} {h₁ h₂ : Time} (hle : h₂ ≤ h₁)
    (now₁ now₂ : Time) {k : Channel} {t : Time}
    (ht : offered ⟨s, h, h₂, now₂⟩ k = some t) :
    ∃ u, offered ⟨s, h, h₁, now₁⟩ k = some u ∧ t ≤ u := by
  have gated : ∀ {β : Type} [Timed β] {b : History β} {admitted : Bool},
      (if admitted then (b.near? h₂).map time else none) = some t →
        ∃ u, (if admitted then (b.near? h₁).map time else none) = some u ∧ t ≤ u := by
    intro β _ b admitted ht
    cases admitted with
    | false => cases ht
    | true => exact History.time_near?_mono hle ht
  cases k with
  | gps | vision | flow | mag | airspeed => exact gated ht
  | range => exact History.time_near?_mono hle ht
  | height =>
      show ∃ u, h.heightTime? s.height h₁ = some u ∧ t ≤ u
      replace ht : h.heightTime? s.height h₂ = some t := ht
      cases hs : s.height <;> rw [hs] at ht <;> exact History.time_near?_mono hle ht

end Offered

/-! ## What a channel does -/

section Taking

variable {α : Type} [Scalar α]

/-- The stage of a fusion that serves a channel. -/
def Fused.take (i : FusionInput α) (s : Fused α) : Channel → Fused α
  | .gps => s.takeGps i
  | .vision => s.takeVision i
  | .range => s.takeRange i
  | .flow => s.takeFlow i
  | .height => s.takeHeight i
  | .mag => s.takeMag i
  | .airspeed => s.takeAirspeed i

/-- A fusion serves all channels, one after another. -/
theorem GatedFilter.fuseActive_eq (f : GatedFilter α) (health : Health) (i : FusionInput α) :
    f.fuseActive health i = Channel.all.foldl (Fused.take i) ⟨f, health⟩ :=
  rfl

/-- What a channel may do in a fusion. -/
inductive Taking (i : FusionInput α) (k : Channel) (s : Fused α) : Fused α → Prop
  | pass : (∀ t, i.offered k = some t → s.core.consumed.Covers k t) → Taking i k s s
  | take {s' : Fused α} (t : Time) : i.offered k = some t → ¬s.core.consumed.Covers k t →
      s'.core.consumed = s.core.consumed.note t k → Taking i k s s'

theorem GatedFilter.consumed_correct (f : GatedFilter α) (c : Component) (measured variance : α) :
    (f.correct c measured variance).2.consumed = f.consumed := by
  unfold correct
  dsimp only
  split <;> rfl

/-- The sample at the horizon is withheld if its time is covered, and else handed out. -/
theorem History.unseen?_cases {β : Type} [Timed β] (b : History β) (horizon : Time) (c : Consumed)
    (k : Channel) :
    (b.unseen? horizon (c.last k) = none ∧
      ∀ t, (b.near? horizon).map time = some t → c.Covers k t) ∨
    ∃ x, b.unseen? horizon (c.last k) = some x ∧ (b.near? horizon).map time = some (time x) ∧
      ¬c.Covers k (time x) := by
  unfold unseen?
  cases hn : b.near? horizon with
  | none => exact Or.inl ⟨rfl, nofun⟩
  | some x =>
      cases hl : c.last k with
      | none =>
          refine Or.inr ⟨x, rfl, rfl, ?_⟩
          rintro ⟨u, hu, -⟩
          cases hl.symm.trans hu
      | some u =>
          by_cases hxu : time x ≤ u
          · refine Or.inl ⟨if_pos hxu, fun t ht => ?_⟩
            cases ht
            exact ⟨u, hl, hxu⟩
          · refine Or.inr ⟨x, if_neg hxu, rfl, ?_⟩
            rintro ⟨v, hv, hxv⟩
            cases hl.symm.trans hv
            exact hxu hxv

omit [Scalar α] in
/-- A channel that looks into one history, if the status admits it. -/
theorem Taking.of_unseen {i : FusionInput α} {k : Channel} {s s' : Fused α} {β : Type} [Timed β]
    (b : History β) (admitted : Bool) (last : Option Time)
    (remembered : s.core.consumed.last k = last)
    (offered : i.offered k = if admitted then (b.near? i.horizon).map time else none)
    (shut : admitted = false → s' = s)
    (withheld : admitted = true → b.unseen? i.horizon last = none → s' = s)
    (taken : admitted = true → ∀ x, b.unseen? i.horizon last = some x →
      s'.core.consumed = s.core.consumed.note (time x) k) : Taking i k s s' := by
  subst remembered
  cases ha : admitted with
  | false =>
      rw [shut ha]
      rw [ha] at offered
      exact .pass fun t ht => absurd (offered.symm.trans ht) nofun
  | true =>
      rw [ha, if_pos rfl] at offered
      rcases b.unseen?_cases i.horizon s.core.consumed k with ⟨hn, hcovered⟩ | ⟨x, hs, hx, hnew⟩
      · rw [withheld ha hn]
        exact .pass fun t ht => hcovered t (offered.symm.trans ht)
      · exact .take (time x) (offered.trans hx) hnew (taken ha x hs)

/-- Height takes what the selected source measures, unless its time is covered. -/
theorem GatedFilter.time_heightMeasurement (f : GatedFilter α) (source : HeightSource)
    (h : Histories α) (horizon : Time) :
    (f.heightMeasurement source h (some horizon)).map HeightMeasurement.time =
      h.heightTime? source horizon := by
  cases source <;> exact Option.map_map _ _ _

theorem takeHeight_taking (i : FusionInput α) (s : Fused α) :
    Taking i .height s (s.takeHeight i) := by
  have offered : (s.core.heightMeasurement i.status.height i.histories (some i.horizon)).map
      GatedFilter.HeightMeasurement.time = i.offered .height :=
    s.core.time_heightMeasurement i.status.height i.histories i.horizon
  cases hm : s.core.heightMeasurement i.status.height i.histories (some i.horizon) with
  | none =>
      have idle : s.takeHeight i = s := by simp [Fused.takeHeight, hm]
      rw [hm] at offered
      rw [idle]
      exact .pass fun t ht => absurd (offered.trans ht) nofun
  | some m =>
      rw [hm, Option.map_some] at offered
      by_cases hc : s.core.consumed.Covers .height m.time
      · obtain ⟨u, hu, hmu⟩ := id hc
        replace hu : s.core.consumed.height = some u := hu
        have idle : s.takeHeight i = s := by
          simp [Fused.takeHeight, hm, hu, Nat.not_lt.mpr hmu]
        rw [idle]
        refine .pass fun t ht => ?_
        cases offered.trans ht
        exact hc
      · refine .take m.time offered.symm hc ?_
        cases hl : s.core.consumed.height with
        | none =>
            simp only [Fused.takeHeight, hm, hl, Bool.not_true, Bool.false_eq_true, if_false,
              GatedFilter.recordVerdict, GatedFilter.setInnovation, GatedFilter.consumed_correct]
            rfl
        | some u =>
            have newer : u < m.time := Nat.lt_of_not_le fun hmu => hc ⟨u, hl, hmu⟩
            simp only [Fused.takeHeight, hm, hl, decide_eq_true newer, Bool.not_true,
              Bool.false_eq_true, if_false, GatedFilter.recordVerdict, GatedFilter.setInnovation,
              GatedFilter.consumed_correct]
            rfl

/-- Whatever a channel finds, it passes over what is covered, and takes and notes what is not. -/
theorem Fused.take_taking (i : FusionInput α) (s : Fused α) (k : Channel) :
    Taking i k s (s.take i k) := by
  cases k with
  | gps =>
      refine .of_unseen i.histories.gps i.status.gps s.core.consumed.gps rfl rfl ?_ ?_ ?_
      · intro h
        simp [take, takeGps, h]
      · intro h hn
        simp [take, takeGps, h, hn]
      · intro h x hx
        simp only [take, takeGps, h, hx, Bool.not_true, Bool.false_eq_true, if_false,
          GatedFilter.recordVerdict, GatedFilter.setInnovation, GatedFilter.consumed_correct]
        rfl
  | vision =>
      refine .of_unseen i.histories.vision i.status.visionPosition s.core.consumed.vision rfl rfl
        ?_ ?_ ?_
      · intro h
        simp [take, takeVision, h]
      · intro h hn
        simp [take, takeVision, h, hn]
      · intro h x hx
        simp only [take, takeVision, h, hx, Bool.not_true, Bool.false_eq_true, if_false,
          GatedFilter.recordVerdict, GatedFilter.setInnovation, GatedFilter.consumed_correct]
        rfl
  | range =>
      refine .of_unseen i.histories.range true s.core.consumed.range rfl rfl nofun ?_ ?_
      · intro _ hn
        simp [take, takeRange, hn]
      · intro _ x hx
        simp only [take, takeRange, hx]
        rfl
  | flow =>
      refine .of_unseen i.histories.flow i.status.flow s.core.consumed.flow rfl rfl ?_ ?_ ?_
      · intro h
        simp [take, takeFlow, h]
      · intro h hn
        simp [take, takeFlow, h, hn]
      · intro h x hx
        simp only [take, takeFlow, h, hx]
        rfl
  | height => exact takeHeight_taking i s
  | mag =>
      refine .of_unseen i.histories.mag (i.status.magHeading || i.status.magThreeAxis)
        s.core.consumed.mag rfl rfl ?_ ?_ ?_
      · intro h
        simp [take, takeMag, h]
      · intro h hn
        simp [take, takeMag, h, hn]
      · intro h x hx
        simp only [take, takeMag, h, hx]
        rfl
  | airspeed =>
      refine .of_unseen i.histories.airspeed i.status.inAir s.core.consumed.airspeed rfl rfl
        ?_ ?_ ?_
      · intro h
        simp [take, takeAirspeed, h]
      · intro h hn
        simp [take, takeAirspeed, h, hn]
      · intro h x hx
        simp only [take, takeAirspeed, h, hx]
        rfl

/-- The time that a channel notes when it is served: none if it passes over. -/
def Fused.noted? (i : FusionInput α) (s : Fused α) (k : Channel) : Option Time :=
  let last := (s.take i k).core.consumed.last k
  if last = s.core.consumed.last k then none else last

/-- A channel that is served does nothing at all, or notes the time of the sample it is offered,
which is newer than the last one. -/
theorem Fused.noted?_cases (i : FusionInput α) (s : Fused α) (k : Channel) :
    (s.noted? i k = none ∧ s.take i k = s) ∨
    ∃ t, s.noted? i k = some t ∧ i.offered k = some t ∧ ¬s.core.consumed.Covers k t ∧
      (s.take i k).core.consumed = s.core.consumed.note t k := by
  have taking := s.take_taking i k
  unfold noted?
  generalize s.take i k = s' at taking ⊢
  cases taking with
  | pass => exact Or.inl ⟨if_pos rfl, rfl⟩
  | take t hoffered hnew hnoted =>
      have last : s'.core.consumed.last k = some t := by
        rw [hnoted, Consumed.last_note, if_pos rfl]
      have changed : some t ≠ s.core.consumed.last k := fun h =>
        hnew ⟨t, h.symm, Nat.le_refl t⟩
      refine Or.inr ⟨t, ?_, hoffered, hnew, hnoted⟩
      dsimp only
      rw [last, if_neg changed]

/-- The times that channels note, served one after another. -/
def Fused.notedAlong (i : FusionInput α) (s : Fused α) : List Channel → List (Channel × Time)
  | [] => []
  | k :: ks => (s.noted? i k).toList.map (k, ·) ++ (s.take i k).notedAlong i ks

/-- The times that a fusion notes. -/
def GatedFilter.noted (f : GatedFilter α) (health : Health) (i : FusionInput α) :
    List (Channel × Time) :=
  Fused.notedAlong i ⟨f, health⟩ Channel.all

theorem Fused.progress_take (i : FusionInput α) (s : Fused α) (k : Channel) :
    s.core.consumed.Progress (s.take i k).core.consumed ((s.noted? i k).toList.map (k, ·)) := by
  rcases s.noted?_cases i k with ⟨hn, hs⟩ | ⟨t, hn, -, hnew, hnoted⟩
  · rw [hn, hs]
    exact .still rfl
  · rw [hn, hnoted]
    exact .note hnew

theorem Fused.progress_along (i : FusionInput α) (s : Fused α) (ks : List Channel) :
    s.core.consumed.Progress (ks.foldl (take i) s).core.consumed (s.notedAlong i ks) := by
  induction ks generalizing s with
  | nil => exact .still rfl
  | cons k ks ih => exact (s.progress_take i k).append (ih (s.take i k))

theorem GatedFilter.progress_fuseActive (f : GatedFilter α) (health : Health)
    (i : FusionInput α) :
    f.consumed.Progress (f.fuseActive health i).core.consumed (f.noted health i) := by
  rw [fuseActive_eq]
  exact Fused.progress_along i ⟨f, health⟩ Channel.all

/-! ## A fusion after another -/

/-- Nothing is left of what a channel was offered once it was served. -/
theorem Fused.covers_take (i : FusionInput α) (s : Fused α) (k : Channel) {t : Time}
    (ht : i.offered k = some t) : (s.take i k).core.consumed.Covers k t := by
  have taking := s.take_taking i k
  generalize s.take i k = s' at taking ⊢
  cases taking with
  | pass hcovered => exact hcovered t ht
  | take u hu _ hnoted =>
      cases hu.symm.trans ht
      rw [hnoted]
      exact Consumed.covers_note ..

theorem Fused.covers_along (i : FusionInput α) (s : Fused α) {k : Channel} {t : Time}
    (ht : i.offered k = some t) (ks : List Channel) (hk : k ∈ ks) :
    (ks.foldl (take i) s).core.consumed.Covers k t := by
  induction ks generalizing s with
  | nil => cases hk
  | cons l ks ih =>
      rcases List.mem_cons.mp hk with rfl | hk
      · exact (Fused.progress_along i _ ks).covered (s.covers_take i k ht)
      · exact ih (s.take i l) hk

theorem Channel.mem_all (k : Channel) : k ∈ Channel.all := by
  cases k <;> decide

/-- When all that is offered is covered, a fusion does nothing. -/
theorem Fused.along_eq_self {i : FusionInput α} {s : Fused α}
    (h : ∀ k t, i.offered k = some t → s.core.consumed.Covers k t) (ks : List Channel) :
    ks.foldl (take i) s = s := by
  induction ks with
  | nil => rfl
  | cons k ks ih =>
      have idle : s.take i k = s := by
        rcases s.noted?_cases i k with ⟨-, hs⟩ | ⟨t, -, ht, hnew, -⟩
        · exact hs
        · exact absurd (h k t ht) hnew
      rw [List.foldl_cons, idle, ih]

/-- After a fusion there is nothing for another at the same horizon or an earlier one. -/
theorem GatedFilter.fuseActive_again (f : GatedFilter α) (health : Health) (s : Status)
    (samples : Histories α) {h₁ h₂ : Time} (hle : h₂ ≤ h₁) (now₁ now₂ : Time) :
    let first := f.fuseActive health ⟨s, samples, h₁, now₁⟩
    first.core.fuseActive first.health ⟨s, samples, h₂, now₂⟩ = first := by
  intro first
  have covered : ∀ k t, FusionInput.offered ⟨s, samples, h₂, now₂⟩ k = some t →
      first.core.consumed.Covers k t := by
    intro k t ht
    obtain ⟨u, hu, htu⟩ := FusionInput.offered_mono hle now₁ now₂ ht
    have served : first.core.consumed.Covers k u :=
      Fused.covers_along _ ⟨f, health⟩ hu Channel.all k.mem_all
    exact served.earlier htu
  rw [fuseActive_eq]
  exact Fused.along_eq_self covered Channel.all

end Taking

/-- Nothing but a fusion writes the times of the last samples. -/
theorem GatedFilter.consumed_update {α : Type} [Scalar α] (f : GatedFilter α) (a : Arbiter α)
    (clock : Clock) (samples : Histories α) :
    (a.update clock samples f).core.consumed = f.consumed := by
  obtain ⟨_, _, _, _, _, _, rewritten⟩ := f.rewritten_update a clock samples
  rw [rewritten]

/-! ## Runs -/

namespace Flight

variable {α : Type} [Scalar α]

/-- The times that a step notes; only a fusion notes any. -/
def notedIn (f : Flight α (GatedFilter α)) :
    FlightStep α (GatedFilter α) → List (Channel × Time)
  | .update _ _ => []
  | .setInAir _ => []
  | .predict _ _ _ => []
  | .fuse input => f.core.noted f.arbiter.standing.health input
  | .adjust _ => []

/-- The times that the steps note, in their order. -/
def noted (f : Flight α (GatedFilter α)) :
    List (FlightStep α (GatedFilter α)) → List (Channel × Time)
  | [] => []
  | k :: ks => f.notedIn k ++ (f.step k).noted ks

theorem progress_step (f : Flight α (GatedFilter α)) (k : FlightStep α (GatedFilter α))
    (hk : ∀ change, k = .adjust change → ∀ c, (change c).consumed = c.consumed) :
    f.core.consumed.Progress (f.step k).core.consumed (f.notedIn k) := by
  cases k with
  | update clock samples => exact .still (f.core.consumed_update f.arbiter clock samples)
  | setInAir _ => exact .still rfl
  | predict _ _ _ => exact .still rfl
  | fuse input => exact f.core.progress_fuseActive f.arbiter.standing.health input
  | adjust change => exact .still (hk change rfl f.core)

theorem progress_after : ∀ (f : Flight α (GatedFilter α))
    (steps : List (FlightStep α (GatedFilter α))),
    (∀ change, .adjust change ∈ steps → ∀ c, (change c).consumed = c.consumed) →
    f.core.consumed.Progress (f.after steps).core.consumed (f.noted steps)
  | _, [], _ => .still rfl
  | f, k :: ks, quiet => by
      have first : f.core.consumed.Progress (f.step k).core.consumed (f.notedIn k) := by
        refine progress_step f k ?_
        rintro change rfl
        exact quiet change (List.mem_cons_self ..)
      exact first.append <| progress_after (f.step k) ks fun change hk =>
        quiet change (List.mem_cons_of_mem k hk)

end Flight

/-- A second fusion with the same status and histories, at the same horizon or an earlier one,
changes nothing.  A channel that is served notes the time of the sample it is offered or changes
nothing, and the times that a channel notes in a run increase, whatever the sources and orders. -/
theorem fused_once {α : Type} [Scalar α] :
    (∀ (f : GatedFilter α) (health : Health) (s : Status) (samples : Histories α)
        (h₁ h₂ now₁ now₂ : Time), h₂ ≤ h₁ →
      let first := f.fuseActive health ⟨s, samples, h₁, now₁⟩
      first.core.fuseActive first.health ⟨s, samples, h₂, now₂⟩ = first) ∧
    (∀ (i : FusionInput α) (s : Fused α) (k : Channel),
      s.take i k = s ∨ ∃ t, s.noted? i k = some t ∧ i.offered k = some t) ∧
    ∀ (f : Flight α (GatedFilter α)) (steps : List (FlightStep α (GatedFilter α))),
      (∀ change, .adjust change ∈ steps → ∀ c, (change c).consumed = c.consumed) →
      (f.noted steps).Pairwise fun d e => d.1 = e.1 → d.2 < e.2 := by
  refine ⟨fun f health s samples h₁ h₂ now₁ now₂ hle => ?_, fun i s k => ?_,
    fun f steps quiet => ?_⟩
  · exact f.fuseActive_again health s samples hle now₁ now₂
  · rcases s.noted?_cases i k with ⟨-, hs⟩ | ⟨t, hn, ht, -, -⟩
    · exact Or.inl hs
    · exact Or.inr ⟨t, hn, ht⟩
  · exact (f.progress_after steps quiet).increasing

/-- Height is taken from the barometer first.  When the range finder is selected, a distance older
than that is no height any more, and a newer one is; neither is taken again when the horizon falls
back. -/
theorem fused_once_reselected :
    let samples : Histories Float :=
      { noSamples with
        baro := historyOf [⟨880000, 0.5⟩]
        range := historyOf [⟨870000, 1.0⟩, ⟨900000, 1.2⟩] }
    let core : GatedFilter Float := .levelled
    let first := core.fuseActive .initial ⟨.initial, samples, 900000, 1000000⟩
    let flight : Flight Float (GatedFilter Float) := ⟨.ofSettings .default, core⟩
    let input (source : HeightSource) (horizon : Time) : FusionInput Float :=
      ⟨{ Status.initial with height := source }, samples, horizon, 1000000⟩
    let learnOrigin (c : GatedFilter Float) : GatedFilter Float := { c with originSet := true }
    let steps : List (FlightStep Float (GatedFilter Float)) :=
      [.fuse (input .baro 890000), .adjust learnOrigin, .fuse (input .range 890000),
        .fuse (input .range 900000), .fuse (input .baro 890000)]
    (890000 : Time) ≤ 900000 ∧
      first.core.fuseActive first.health ⟨.initial, samples, 890000, 1010000⟩ = first ∧
      (∀ change, .adjust change ∈ steps →
        ∀ c : GatedFilter Float, (change c).consumed = c.consumed) ∧
      ((flight.noted steps).Pairwise fun d e => d.1 = e.1 → d.2 < e.2) ∧
      flight.noted steps =
        [(.range, 870000), (.height, 880000), (.range, 900000), (.height, 900000)] := by
  intro samples core first flight input learnOrigin steps
  have earlier : (890000 : Time) ≤ 900000 := by decide
  have quiet : ∀ change, .adjust change ∈ steps →
      ∀ c : GatedFilter Float, (change c).consumed = c.consumed := by
    intro change hk c
    simp only [steps, List.mem_cons, reduceCtorEq, FlightStep.adjust.injEq, List.not_mem_nil,
      or_false, false_or] at hk
    rw [hk]
  obtain ⟨again, -, increasing⟩ := fused_once (α := Float)
  exact ⟨earlier, again core .initial .initial samples 900000 890000 1000000 1010000 earlier,
    quiet, increasing flight steps quiet, by decide +kernel⟩

end NavArbiter
