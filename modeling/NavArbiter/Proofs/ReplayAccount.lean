/-
# What a replay makes of its log

A replay queues the samples of a reading, drains the inboxes at once and only then asks the arbiter.
So between two readings nothing waits, and an inbox never holds more than the one sample that a
reading can bring: it has room for that, however small it is.

    taken over      what the readings so far have brought, sensor by sensor
    in a history    the last of it, as many as fit
    in the summary  how much of it there was, over all sensors

`Replay.TakenOver` says this of a state.  A reading keeps it (`TakenOver.step`), and what the
arbiter sees at an update includes the reading itself (`TakenOver.ready`).

The events of the updates are collected in their order (`events_after`).  The summary counts them by
name: each name that occurs has one entry, and the names are in order (`lookup_tally`,
`sorted_tally`).
-/
import Mathlib.Data.List.Induction
import NavArbiter.Proofs.Handover
import NavArbiter.Replay.Report

namespace NavArbiter

/-! ## One sensor of a family -/

/-- The samples of a sensor. -/
def Sensor.Sample (α : Type) : Sensor → Type
  | baro => BaroSample α
  | gps => GpsSample α
  | range => RangeSample α
  | vision => VisionSample α
  | flow => FlowSample α
  | mag => MagSample α
  | airspeed => AirspeedSample α

/-- The member of a family that belongs to a sensor. -/
def PerSensor.get {F : Type → Type} {α : Type} (f : PerSensor F α) :
    (k : Sensor) → F (k.Sample α)
  | .baro => f.baro
  | .gps => f.gps
  | .range => f.range
  | .vision => f.vision
  | .flow => f.flow
  | .mag => f.mag
  | .airspeed => f.airspeed

variable {α : Type}

theorem Histories.get_empty (n : Nat) (h : 0 < n) (k : Sensor) :
    (Histories.empty n h : Histories α).get k = .empty n h := by
  cases k <;> rfl

namespace Inboxes

theorem get_empty (n : Nat) (h : 0 < n) (k : Sensor) :
    (Inboxes.empty n h : Inboxes α).get k = .empty n h := by
  cases k <;> rfl

theorem get_queueAll (b : Inboxes α) (m : Measurements α) (k : Sensor) :
    (b.queueAll m).get k = queue (b.get k) (m.get k) := by
  cases k <;> rfl

theorem get_drained (b : Inboxes α) (k : Sensor) : b.drained.get k = (b.get k).drained := by
  cases k <;> rfl

theorem get_drainInto (b : Inboxes α) (h : Histories α) (k : Sensor) :
    (b.drainInto h).get k = (b.get k).drainInto (h.get k) := by
  cases k <;> rfl

theorem queue_queue_of_idle {β : Type} {b : Inbox β} (h : b.queue = []) (x? : Option β) :
    (queue b x?).queue = x?.toList := by
  cases x? with
  | none => exact h
  | some x =>
      show (if b.queue.length = b.capacity then b.queue.tail else b.queue) ++ [x] = [x]
      rw [h, List.tail_nil, ite_self, List.nil_append]

theorem size_queue_of_idle {β : Type} {b : Inbox β} (h : b.queue = []) (x? : Option β) :
    (queue b x?).size = Measurements.present x? := by
  rw [Inbox.size, queue_queue_of_idle h]
  cases x? <;> rfl

/-- Idle inboxes hold what has just been queued, and no more. -/
theorem size_queueAll_of_idle {b : Inboxes α} (h : ∀ k, (b.get k).queue = [])
    (m : Measurements α) : (b.queueAll m).size = m.count := by
  have each (k : Sensor) : ((b.queueAll m).get k).size = Measurements.present (m.get k) := by
    rw [get_queueAll, size_queue_of_idle (h k)]
  have gps : (b.queueAll m).gps.size = Measurements.present m.gps := each .gps
  have baro : (b.queueAll m).baro.size = Measurements.present m.baro := each .baro
  have range : (b.queueAll m).range.size = Measurements.present m.range := each .range
  have vision : (b.queueAll m).vision.size = Measurements.present m.vision := each .vision
  have flow : (b.queueAll m).flow.size = Measurements.present m.flow := each .flow
  have mag : (b.queueAll m).mag.size = Measurements.present m.mag := each .mag
  have airspeed : (b.queueAll m).airspeed.size = Measurements.present m.airspeed := each .airspeed
  rw [size, Measurements.count, gps, baro, range, vision, flow, mag, airspeed]

end Inboxes

/-- An inbox in which nothing waits has room. -/
theorem Inbox.overwritten?_of_idle {β : Type} {b : Inbox β} (h : b.queue = []) :
    b.overwritten? = none := by
  rw [overwritten?, h, if_neg]
  exact Nat.ne_of_lt b.capacity_pos

/-- The samples of a sensor in readings, in their order. -/
def delivered (k : Sensor) (readings : List (Reading α)) : List (k.Sample α) :=
  readings.filterMap fun r => r.measured.get k

theorem delivered_concat (k : Sensor) (readings : List (Reading α)) (r : Reading α) :
    delivered k (readings ++ [r]) = delivered k readings ++ (r.measured.get k).toList := by
  rw [delivered, List.filterMap_append]
  refine congrArg (delivered k readings ++ ·) ?_
  cases h : r.measured.get k with
  | none => exact List.filterMap_cons_none h
  | some x => exact List.filterMap_cons_some h

/-- How many samples there are in readings, over all sensors. -/
def sampleCount : List (Reading α) → Nat
  | [] => 0
  | r :: rs => r.measured.count + sampleCount rs

theorem sampleCount_concat (readings : List (Reading α)) (r : Reading α) :
    sampleCount (readings ++ [r]) = sampleCount readings + r.measured.count := by
  induction readings with
  | nil => exact Nat.add_comm ..
  | cons s readings ih =>
      show s.measured.count + sampleCount (readings ++ [r]) = _
      rw [ih, ← Nat.add_assoc]
      rfl

namespace Replay

/-! ## What has been taken over -/

/-- A replay has taken over these readings. -/
structure TakenOver (o : ReplayOptions) (readings : List (Reading α)) (p : Replay α) : Prop where
  /-- Nothing waits. -/
  idle : ∀ k, (p.inboxes.get k).queue = []
  capacity : ∀ k, (p.histories.get k).capacity = o.capacity
  /-- The histories hold the last samples, as many as fit. -/
  held : ∀ k, (p.histories.get k).samples = lastUpTo o.capacity (delivered k readings)
  counted : p.samples = sampleCount readings

variable {o : ReplayOptions} {readings : List (Reading α)} {p : Replay α}

theorem TakenOver.takeOver (h : TakenOver o readings p) (r : Reading α) :
    TakenOver o (readings ++ [r]) (p.takeOver r) where
  idle k := by
    show ((p.inboxes.queueAll r.measured).drained.get k).queue = []
    rw [Inboxes.get_drained]
    rfl
  capacity k := by
    show (((p.inboxes.queueAll r.measured).drainInto p.histories).get k).capacity = o.capacity
    rw [Inboxes.get_drainInto, Inbox.drainInto, History.capacity_pushAll, h.capacity]
  held k := by
    show (((p.inboxes.queueAll r.measured).drainInto p.histories).get k).samples = _
    rw [Inboxes.get_drainInto, Inbox.drainInto, History.samples_pushAll, h.capacity, h.held,
      lastUpTo_lastUpTo_append, Inboxes.get_queueAll, Inboxes.queue_queue_of_idle (h.idle k),
      delivered_concat]
  counted := by
    show p.samples + (p.inboxes.queueAll r.measured).size = _
    rw [Inboxes.size_queueAll_of_idle h.idle, h.counted, sampleCount_concat]

variable [Scalar α]

/-- The replay when the arbiter is about to decide on a reading. -/
def ready (p : Replay α) (r : Reading α) : Replay α := (p.takeOver r).advance r

/-- To carry the core forward takes nothing over. -/
theorem TakenOver.ready (h : TakenOver o readings p) (r : Reading α) :
    TakenOver o (readings ++ [r]) (p.ready r) :=
  ⟨(h.takeOver r).idle, (h.takeOver r).capacity, (h.takeOver r).held, (h.takeOver r).counted⟩

theorem TakenOver.step (h : TakenOver o readings p) (r : Reading α) :
    TakenOver o (readings ++ [r]) (p.step o r) :=
  ⟨(h.ready r).idle, (h.ready r).capacity, (h.ready r).held, (h.ready r).counted⟩

/-- The replay after readings, in their order. -/
def after (o : ReplayOptions) (p : Replay α) (rs : List (Reading α)) : Replay α :=
  rs.foldl (step o) p

theorem TakenOver.after (h : TakenOver o readings p) (rs : List (Reading α)) :
    TakenOver o (readings ++ rs) (p.after o rs) := by
  induction rs generalizing readings p with
  | nil => rwa [List.append_nil]
  | cons r rs ih =>
      have rest := ih (h.step r)
      rwa [List.append_assoc] at rest

/-- A replay starts with empty inboxes and histories and has nothing to report. -/
theorem fresh_of_start {s : Settings α} (h : start o s = .ok p) :
    (∃ room, p.inboxes = .empty o.capacity room ∧ p.histories = .empty o.capacity room) ∧
      p.samples = 0 ∧ p.events = [] := by
  unfold start at h
  split at h
  · cases h
  · split at h
    · next room =>
      cases h
      exact ⟨⟨room, rfl, rfl⟩, rfl, rfl⟩
    · cases h

theorem takenOver_start {s : Settings α} (h : start o s = .ok p) : TakenOver o [] p := by
  obtain ⟨⟨room, inboxes, histories⟩, samples, -⟩ := fresh_of_start h
  constructor
  · intro k
    rw [inboxes, Inboxes.get_empty]
    rfl
  · intro k
    rw [histories, Histories.get_empty]
    rfl
  · intro k
    rw [histories, Histories.get_empty]
    exact (lastUpTo_of_length_le (Nat.zero_le _)).symm
  · exact samples

/-- With settings in range only a capacity of zero keeps a replay from starting. -/
theorem start_of_check {s : Settings α} (hs : s.check = .ok ()) :
    (0 < o.capacity → ∃ p, start o s = .ok p) ∧
      (o.capacity = 0 → start o s = .error .zeroCapacity) := by
  have new : Arbiter.new s = .ok (.ofSettings s) := by
    rw [Arbiter.new, hs]
    rfl
  refine ⟨fun pos => ?_, fun zero => ?_⟩
  · rw [start, new]
    simp only [dif_pos pos]
    exact ⟨_, rfl⟩
  · rw [start, new]
    exact dif_neg (Nat.not_lt.2 (Nat.le_of_eq zero))

/-! ## The events of the updates -/

/-- The update of the arbiter on a reading. -/
def update (o : ReplayOptions) (p : Replay α) (r : Reading α) : Cycle α (GatedFilter α) :=
  (p.arbiter.setInAir r.inAir).update ⟨r.time, r.time - o.delay * 1000⟩ p.histories p.core

/-- What the updates on readings return, in their order. -/
def returned (o : ReplayOptions) (p : Replay α) : List (Reading α) → List (Event α)
  | [] => []
  | r :: rs => ((p.ready r).update o r).events ++ (p.step o r).returned o rs

theorem events_step (p : Replay α) (r : Reading α) : (p.step o r).events =
    p.events ++ ((p.ready r).update o r).events.map fun e => (r.time, e) := rfl

theorem events_after (p : Replay α) (rs : List (Reading α)) :
    (p.after o rs).events.map Prod.snd = p.events.map Prod.snd ++ p.returned o rs := by
  induction rs generalizing p with
  | nil => exact (List.append_nil _).symm
  | cons r rs ih =>
      have untimed (es : List (Event α)) : (es.map fun e => (r.time, e)).map Prod.snd = es := by
        rw [List.map_map]
        exact List.map_id es
      have rest : (p.after o (r :: rs)).events.map Prod.snd =
          (p.step o r).events.map Prod.snd ++ (p.step o r).returned o rs := ih (p.step o r)
      rw [rest, events_step, List.map_append, untimed, List.append_assoc, returned]

/-! ## Counts by name -/

/-- The names of counts are in order, so none has two entries. -/
def Sorted (counts : List (String × Nat)) : Prop := (counts.map Prod.fst).Pairwise (· < ·)

theorem mem_names_countName {name n : String} {counts : List (String × Nat)}
    (h : n ∈ (countName name counts).map Prod.fst) : n = name ∨ n ∈ counts.map Prod.fst := by
  induction counts with
  | nil => exact .inl (List.mem_singleton.1 h)
  | cons c rest ih =>
      obtain ⟨m, k⟩ := c
      unfold countName at h
      split at h
      · exact .inr h
      · split at h
        · exact List.mem_cons.1 h
        · obtain rfl | h := List.mem_cons.1 h
          · exact .inr (List.mem_cons_self ..)
          · exact (ih h).imp_right (List.mem_cons_of_mem _)

/-- What comes before the first name comes before them all. -/
theorem Sorted.lt_of_lt_head {name : String} {c : String × Nat} {rest : List (String × Nat)}
    (h : Sorted (c :: rest)) (hlt : name < c.1) : ∀ n ∈ (c :: rest).map Prod.fst, name < n := by
  intro n hn
  obtain rfl | hn := List.mem_cons.1 hn
  · exact hlt
  · exact String.lt_trans hlt ((List.pairwise_cons.1 h).1 n hn)

theorem sorted_countName {name : String} {counts : List (String × Nat)} (h : Sorted counts) :
    Sorted (countName name counts) := by
  induction counts with
  | nil => exact List.pairwise_singleton _ _
  | cons c rest ih =>
      obtain ⟨m, k⟩ := c
      obtain ⟨first, others⟩ := List.pairwise_cons.1 h
      unfold countName
      split
      · exact h
      · next hne =>
        split
        · next hlt => exact List.pairwise_cons.2 ⟨h.lt_of_lt_head hlt, h⟩
        · next hlt =>
          refine List.pairwise_cons.2 ⟨fun n hn => ?_, ih others⟩
          obtain rfl | hn := mem_names_countName hn
          · exact Std.lt_of_le_of_ne (String.not_lt.1 hlt) (Ne.symm hne)
          · exact first n hn

theorem lookup_cons_of_ne {n m : String} (h : n ≠ m) (k : Nat) (rest : List (String × Nat)) :
    ((m, k) :: rest).lookup n = rest.lookup n := by
  rw [List.lookup_cons, beq_false_of_ne h]

/-- A name that comes before the first is not there. -/
theorem lookup_of_lt {name : String} {counts : List (String × Nat)}
    (h : ∀ n ∈ counts.map Prod.fst, name < n) : counts.lookup name = none := by
  rw [List.lookup_eq_none_iff]
  intro c hc
  have later := h c.1 (List.mem_map_of_mem hc)
  rw [bne_iff_ne]
  rintro rfl
  exact String.lt_irrefl _ later

/-- One more of a name, and no other count changes. -/
theorem lookup_countName {name : String} {counts : List (String × Nat)} (h : Sorted counts)
    (n : String) : (countName name counts).lookup n =
      if n = name then some ((counts.lookup name).getD 0 + 1) else counts.lookup n := by
  induction counts with
  | nil =>
      by_cases hn : n = name
      · simp [countName, hn]
      · simp [countName, lookup_cons_of_ne hn, hn]
  | cons c rest ih =>
      obtain ⟨m, k⟩ := c
      have others : Sorted rest := (List.pairwise_cons.1 h).2
      unfold countName
      split
      · next heq =>
        subst heq
        by_cases hn : n = name
        · simp [hn]
        · simp [lookup_cons_of_ne hn, hn]
      · next hne =>
        split
        · next hlt =>
          have absent : ((m, k) :: rest).lookup name = none :=
            lookup_of_lt (h.lt_of_lt_head hlt)
          by_cases hn : n = name
          · simp [absent, hn]
          · rw [lookup_cons_of_ne hn, if_neg hn]
        · by_cases hm : n = m
          · have other : n ≠ name := fun hn => hne (hn.symm.trans hm)
            simp [hm, hm ▸ other]
          · rw [lookup_cons_of_ne hm, lookup_cons_of_ne hm, lookup_cons_of_ne hne, ih others]

theorem tally_concat (names : List String) (name : String) :
    tally (names ++ [name]) = countName name (tally names) := by
  rw [tally, List.foldl_append]
  rfl

theorem sorted_tally (names : List String) : Sorted (tally names) := by
  induction names using List.reverseRecOn with
  | nil => exact List.Pairwise.nil
  | append_singleton names name ih =>
      rw [tally_concat]
      exact sorted_countName ih

theorem lookup_tally (names : List String) (n : String) : (tally names).lookup n =
    if names.count n = 0 then none else some (names.count n) := by
  induction names using List.reverseRecOn with
  | nil => rfl
  | append_singleton names name ih =>
      rw [tally_concat, lookup_countName (sorted_tally names), List.count_append]
      by_cases hn : n = name
      · subst hn
        by_cases none : names.count n = 0 <;> simp [ih, none]
      · simp [ih, hn, Ne.symm hn]

/-! ## The report -/

theorem names_after {s : Settings α} {first : Replay α} (h : start o s = .ok first)
    (rs : List (Reading α)) : (first.after o rs).events.map (fun e => e.2.name) =
      (first.returned o rs).map Event.name := by
  have events := events_after (o := o) first rs
  rw [(fresh_of_start h).2.2] at events
  calc (first.after o rs).events.map (fun e => e.2.name)
      = ((first.after o rs).events.map Prod.snd).map Event.name := by rw [List.map_map]; rfl
    _ = (first.returned o rs).map Event.name := by rw [events]; rfl

/-- The report on readings of a replay that starts here. -/
def report (o : ReplayOptions) (first : Replay Float) (rs : List (Reading Float)) : ReplayReport :=
  ⟨(first.after o rs).events, (first.after o rs).summary rs.length⟩

theorem ofDocument_of_read {s : Settings Float} {os : Json.Octets} {log : Log Float}
    (h : Log.read os = .ok log) : ReplayReport.ofDocument o s os =
      match start o s with
      | .error failure => .error (.replay failure)
      | .ok first => .ok (first.report o log.readings) := by
  rw [ReplayReport.ofDocument, h]
  simp only [run]
  cases start o s <;> rfl

/-- Whatever the log, if the settings are in range: with room for a sample the log has a report,
which tells how many readings and samples there were and how often each event was returned, with
one entry for each name that occurs; no push on the way finds an inbox full, and at the update on a
reading the histories hold the last samples up to and including those of the reading.  Without
room there is no report. -/
theorem readings_accounted (o : ReplayOptions) (s : Settings Float) (os : Json.Octets)
    (log : Log Float) (hlog : Log.read os = .ok log) (hs : s.check = .ok ()) :
    (0 < o.capacity → ∃ first report, start o s = .ok first ∧
      ReplayReport.ofDocument o s os = .ok report ∧
      report.summary.cycles = log.readings.length ∧
      report.summary.samples = sampleCount log.readings ∧
      (∀ name, report.summary.eventCounts.lookup name =
        let count := ((first.returned o log.readings).map Event.name).count name
        if count = 0 then none else some count) ∧
      Sorted report.summary.eventCounts ∧
      ∀ earlier r later, log.readings = earlier ++ r :: later →
        let p := first.after o earlier
        (∀ k, (p.inboxes.get k).overwritten? = none) ∧
        ∀ k, ((p.ready r).histories.get k).samples =
          lastUpTo o.capacity (delivered k (earlier ++ [r]))) ∧
    (o.capacity = 0 → ReplayReport.ofDocument o s os = .error (.replay .zeroCapacity)) := by
  obtain ⟨starts, refuses⟩ := start_of_check (o := o) hs
  refine ⟨fun room => ?_, fun zero => ?_⟩
  · obtain ⟨first, hfirst⟩ := starts room
    have taken (rs : List (Reading Float)) : TakenOver o rs (first.after o rs) :=
      (takenOver_start hfirst).after rs
    refine ⟨first, first.report o log.readings, hfirst, ?_, rfl, (taken log.readings).counted, ?_,
      sorted_tally _, ?_⟩
    · rw [ofDocument_of_read hlog, hfirst]
    · intro name
      exact names_after hfirst log.readings ▸ lookup_tally _ name
    · intro earlier r later _
      exact ⟨fun k => Inbox.overwritten?_of_idle ((taken earlier).idle k),
        ((taken earlier).ready r).held⟩
  · rw [ofDocument_of_read hlog, refuses zero]

/-- Two readings: a height, and another height with a distance. -/
def heightAndDistance : Json.Octets :=
  let readings : List Json.Value :=
    [.record [("time_us", .natural 0), ("baro", BaroSample.toJson ⟨0, 1.5⟩)],
     .record [("time_us", .natural 20000), ("baro", BaroSample.toJson ⟨20000, 2.5⟩),
       ("range", RangeSample.toJson ⟨20000, 0.5⟩)]]
  (Json.Value.record [("readings", .list readings)]).compact.toList

/-- With room for one sample of each kind, the second height takes the place of the first. -/
theorem readings_accounted_cramped :
    let o : ReplayOptions := { capacity := 1 }
    ∃ log, Log.read heightAndDistance = .ok log ∧
      (Settings.default : Settings Float).check = .ok () ∧ 0 < o.capacity ∧
      ∃ report, ReplayReport.ofDocument o .default heightAndDistance = .ok report ∧
        report.summary.cycles = 2 ∧ report.summary.samples = 3 := by
  intro o
  have counts : (Log.read heightAndDistance).toOption.map (fun log =>
      (log.readings.length, sampleCount log.readings)) = some (2, 3) := by decide +kernel
  cases hlog : Log.read heightAndDistance with
  | error fault => rw [hlog] at counts; cases counts
  | ok log =>
      rw [hlog] at counts
      obtain ⟨cycles, samples⟩ := Prod.mk.inj (Option.some.inj counts)
      obtain ⟨-, report, -, hreport, hcycles, hsamples, -⟩ :=
        (readings_accounted o .default heightAndDistance log hlog rfl).1 Nat.one_pos
      exact ⟨log, rfl, rfl, Nat.one_pos, report, hreport, hcycles.trans cycles,
        hsamples.trans samples⟩

end Replay

end NavArbiter
