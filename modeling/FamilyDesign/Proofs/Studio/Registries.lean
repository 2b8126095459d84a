import FamilyDesign.Proofs.Desk.Requests
import FamilyDesign.Proofs.Job.Listing
import FamilyDesign.Proofs.Studio.Run
import Mathlib.Data.List.Nodup

/-!
# Two registries of jobs

A job that is started is noted twice: its session has its id, and the tracker has its record, in
which the session stands. The notes of a session are only added to, while the records of the tracker
are rewritten and found by filtering and sorting. They agree all the same.

* **`Desk.jobIds`** — the jobs that a session notes; no request to the desk changes them.
* **`started`** — the jobs that a run starts, with their sessions.
* **`Agree`** — both registries follow such a list; `Agree.perform` keeps that up.
* **`jobIds_eq_jobs`** — after every run a session notes just the jobs that are found for it.
-/

namespace FamilyDesign

namespace Desk

variable {σ : Type} {desk desk' : Desk σ}

/-- The jobs that a session notes; none if there is no session. -/
def jobIds (desk : Desk σ) (id : Text) : List Text := ((desk.session? id).map (·.jobIds)).getD []

theorem jobIds_congr (h : desk'.sessions = desk.sessions) (id : Text) :
    desk'.jobIds id = desk.jobIds id := by
  unfold jobIds
  rw [session?_congr h]

/-- The jobs noted are those of the session. -/
theorem jobIds_of_session {id : Text} {s : Session} (h : desk.session? id = some s) :
    desk.jobIds id = s.jobIds := by
  unfold jobIds
  rw [h]
  rfl

/-- A session that is kept changes its own jobs only. -/
theorem jobIds_keep (desk : Desk σ) (s : Session) (id : Text) :
    (desk.keep s).jobIds id = if id = s.id then s.jobIds else desk.jobIds id := by
  unfold jobIds
  split
  · next heq =>
    rw [heq, session?_keep_self]
    rfl
  · next hne => rw [session?_keep_of_ne desk hne]

/-- A session that notes what it noted before. -/
theorem jobIds_keep_of_eq {s : Session} (h : s.jobIds = desk.jobIds s.id) (id : Text) :
    (desk.keep s).jobIds id = desk.jobIds id := by
  rw [jobIds_keep]
  split
  · next heq => rw [heq, h]
  · rfl

section

variable (hkept : desk.KeptById)
include hkept

/-- A design that is committed leaves the jobs noted as they are. -/
theorem jobIds_of_committed {given prompt : Text} {made : Except DeskFault Draft × Desk σ}
    (h : Committed desk given prompt made) (id : Text) : made.2.jobIds id = desk.jobIds id := by
  cases h with
  | refused fault hsessions => exact jobIds_congr hsessions id
  | @made asked hsessions design source kind warnings now =>
    rw [← jobIds_congr hsessions]
    -- the session that is renewed notes what it did, or nothing if it has just begun
    apply jobIds_keep_of_eq
    show ((asked.session? given).getD (.start given now)).jobIds
      = asked.jobIds ((asked.session? given).getD (.start given now)).id
    cases hget : asked.session? given with
    | none =>
      show [] = asked.jobIds given
      unfold jobIds
      rw [hget]
      rfl
    | some s =>
      have hid : s.id = given := (hkept given s (by rw [← session?_congr hsessions, hget])).1
      show s.jobIds = asked.jobIds s.id
      rw [hid, jobIds_of_session hget]

theorem jobIds_of_recorded {given : Option Text} {index : Nat}
    {made : Except DeskFault Draft × Desk σ} (h : Recorded desk given index made) (id : Text) :
    made.2.jobIds id = desk.jobIds id := by
  cases h with
  | refused fault hsessions => exact jobIds_congr hsessions id
  | @made asked hsessions sibling source now =>
    rw [← jobIds_congr hsessions]
    unfold commitVariation
    dsimp only
    split
    · next s hfound =>
      obtain ⟨given', -, hget⟩ := Option.bind_eq_some_iff.mp hfound
      have hid : s.id = given' := (hkept given' s (by rw [← session?_congr hsessions, hget])).1
      apply jobIds_keep_of_eq
      show s.jobIds = asked.jobIds s.id
      rw [hid, jobIds_of_session hget]
    · rfl

end

/-- Induction on the indexes. -/
theorem jobIds_variationsAt (tools : DeskTools σ) (design : Design) (wire : Json)
    (given : Option Text) (now : Instant) (indexes : List Nat) {desk : Desk σ}
    (hkept : desk.KeptById) (id : Text) :
    (variationsAt tools design wire given now indexes desk).2.jobIds id = desk.jobIds id := by
  induction indexes generalizing desk with
  | nil => rfl
  | cons index rest ih =>
    have hjobs := jobIds_of_recorded hkept
      (recorded_variation tools desk design wire given now index) id
    have hkept' := allSessions_variation lasting_true hkept tools design wire given now index
    unfold variationsAt
    generalize desk.variation tools design wire given now index = made at hjobs hkept' ⊢
    obtain ⟨answer, desk'⟩ := made
    cases answer with
    | error fault => exact hjobs
    | ok draft => exact (ih hkept').trans hjobs

theorem jobIds_variations (hkept : desk.KeptById) (tools : DeskTools σ) (design : Design)
    (count : Int) (given : Option Text) (now : Instant) (id : Text) :
    (desk.variations tools design count given now).2.jobIds id = desk.jobIds id := by
  unfold variations
  split
  · exact jobIds_variationsAt tools design _ given now _ hkept id
  · rfl

end Desk

namespace Studio

variable {σ τ : Type} {tools : StudioTools σ τ} {s : Studio σ τ}

/-! ## Jobs that are started -/

/-- The job that an operation starts, if it does. -/
def started? (tools : StudioTools σ τ) (s : Studio σ τ) : Operation → Option Job.Origin
  | .execute id => (s.execute tools id).1.toOption.map fun r => ⟨r.id, id, r.createdAt⟩
  | _ => none

/-- The jobs that a list of operations starts, in their order. -/
def started (tools : StudioTools σ τ) (s : Studio σ τ) : List Operation → List Job.Origin
  | [] => []
  | op :: ops => (s.started? tools op).toList ++ started tools (s.perform tools op) ops

/-- Whether the clock never goes back in a list of operations. -/
def NeverBack (tools : StudioTools σ τ) (s : Studio σ τ) : List Operation → Prop
  | [] => True
  | op :: ops => s.now.micros ≤ (s.perform tools op).now.micros ∧
      NeverBack tools (s.perform tools op) ops

/-- It can be found out by running them. -/
instance NeverBack.decidable (tools : StudioTools σ τ) :
    ∀ (s : Studio σ τ) (ops : List Operation), Decidable (NeverBack tools s ops)
  | _, [] => inferInstanceAs (Decidable True)
  | s, op :: ops => @instDecidableAnd _ _ inferInstance (decidable tools (s.perform tools op) ops)

/-- Both registries follow a list of jobs: each session notes those that are its own, and the
tracker has the records of all, the oldest first. -/
structure Agree (s : Studio σ τ) (origins : List Job.Origin) : Prop where
  kept : s.desk.KeptById
  noted : ∀ id, s.desk.jobIds id = (origins.filter (·.session == id)).map (·.job)
  lists : Job.Lists s.tracker.jobs origins
  ordered : origins.Pairwise fun a b => a.since.micros ≤ b.since.micros
  past : ∀ o ∈ origins, o.since.micros ≤ s.now.micros

/-! ## One operation -/

theorem jobIds_conclude {made : Except DeskFault Draft × Desk σ} (hkept : made.2.KeptById)
    (id : Text) : (s.conclude tools made).2.desk.jobIds id = made.2.jobIds id := by
  obtain ⟨answer, desk⟩ := made
  cases answer with
  | error fault => rfl
  | ok draft =>
    unfold conclude
    dsimp only
    split
    · rfl
    · unfold record
      split
      · next a _ session hget =>
        apply Desk.jobIds_keep_of_eq
        show session.jobIds = desk.jobIds session.id
        rw [(hkept _ session hget).1, Desk.jobIds_of_session hget]
      · rfl

/-- A conclusion does not touch the tracker. -/
theorem tracker_conclude (made : Except DeskFault Draft × Desk σ) :
    (s.conclude tools made).2.tracker = s.tracker := by
  unfold conclude
  dsimp only
  split
  · rfl
  · split
    · rfl
    · unfold record
      split <;> rfl

/-- A conclusion keeps sessions under their ids. -/
theorem keptById_conclude {made : Except DeskFault Draft × Desk σ} (hkept : made.2.KeptById) :
    (s.conclude tools made).2.desk.KeptById := by
  unfold conclude
  dsimp only
  split
  · exact hkept
  · split
    · exact hkept
    · unfold record
      split
      · exact Desk.allSessions_keep hkept trivial
      · exact hkept

/-- All that an execution can do: neither registry is changed by one that is refused, and otherwise
the session notes a job whose record is kept from this moment on. -/
inductive Executed (s : Studio σ τ) (id : Text) :
    Except StudioFault Job.Record × Studio σ τ → Prop
  | refused (fault : StudioFault) {tracker : Job.Tracker τ}
      (hjobs : tracker.jobs = s.tracker.jobs) : Executed s id (.error fault, { s with tracker })
  | started {session : Session} (hget : s.desk.session? id = some session) (record : Job.Record)
      {tracker : Job.Tracker τ} (hjobs : tracker.jobs = s.tracker.jobs.put record.id record)
      (hsession : record.session = id) (hsince : record.createdAt = tracker.outside.now) :
      Executed s id (.ok record,
        { desk := s.desk.keep (session.withJob record.id record.createdAt), tracker })

/-- An execution is refused, or starts one job. -/
theorem executed_execute (tools : StudioTools σ τ) (s : Studio σ τ) (id : Text) :
    Executed s id (s.execute tools id) := by
  unfold execute
  split
  · next fault _ => exact .refused fault rfl
  · next session order horder =>
    have hsubmitted := Job.Tracker.submitted_submit tools.service s.tracker (.object order.write) id
      (expectedSeconds session)
    dsimp only
    -- the session notes the job just if the tracker has taken it
    split
    · next fault tracker hsubmit =>
      rw [hsubmit] at hsubmitted
      cases hsubmitted with
      | refused _ hjobs => exact .refused _ hjobs
    · next record tracker hsubmit =>
      rw [hsubmit] at hsubmitted
      cases hsubmitted with
      | kept _ hjobs hsession hsince =>
        exact .started (order_eq_ok horder).1 record hjobs hsession hsince

namespace Agree

variable {origins : List Job.Origin}

/-- What changes neither the notes of the sessions nor the list of the tracker. -/
theorem unchanged (h : s.Agree origins) {s' : Studio σ τ} (hkept : s'.desk.KeptById)
    (hnoted : ∀ id, s'.desk.jobIds id = s.desk.jobIds id)
    (hlists : Job.Lists s'.tracker.jobs origins) (hclock : s.now.micros ≤ s'.now.micros) :
    s'.Agree origins where
  kept := hkept
  noted id := (hnoted id).trans (h.noted id)
  lists := hlists
  ordered := h.ordered
  past o ho := Int.le_trans (h.past o ho) hclock

/-- A job that its session notes, and that comes last in the tracker, just now. -/
theorem noted_and_kept (h : s.Agree origins) {id : Text} {session : Session}
    (hget : s.desk.session? id = some session) {record : Job.Record} {tracker : Job.Tracker τ}
    (hsession : record.session = id) (hsince : record.createdAt = tracker.outside.now)
    (hlists : Job.Lists tracker.jobs (origins ++ [record.origin]))
    (hclock : s.now.micros ≤ tracker.outside.now.micros) :
    Agree { desk := s.desk.keep (session.withJob record.id record.createdAt), tracker }
      (origins ++ [record.origin]) := by
  have hid : session.id = id := (h.kept id session hget).1
  have hpast : ∀ o ∈ origins, o.since.micros ≤ tracker.outside.now.micros :=
    fun o ho => Int.le_trans (h.past o ho) hclock
  refine ⟨Desk.allSessions_keep h.kept trivial, ?_, hlists, ?_, ?_⟩
  · intro other
    show (s.desk.keep (session.withJob record.id record.createdAt)).jobIds other = _
    rw [Desk.jobIds_keep, List.filter_append, List.map_append, ← h.noted other]
    show (if other = session.id then session.jobIds ++ [record.id] else _) = _
    rw [hid, List.filter_singleton]
    show _ = _ ++ (bif record.session == other then [record.origin] else []).map (·.job)
    rw [hsession]
    -- The job is noted in its own session, and no other list of jobs grows.
    by_cases hother : other = id
    · rw [if_pos hother, hother, Desk.jobIds_of_session hget, beq_self_eq_true]
      rfl
    · rw [if_neg hother, beq_eq_false_iff_ne.mpr (Ne.symm hother)]
      exact (List.append_nil _).symm
  · refine List.pairwise_append.mpr ⟨h.ordered, List.pairwise_singleton _ _, ?_⟩
    intro o ho o' ho'
    rw [List.mem_singleton.mp ho']
    show o.since.micros ≤ record.createdAt.micros
    rw [hsince]
    exact hpast o ho
  · intro o ho
    cases List.mem_append.mp ho with
    | inl ho => exact hpast o ho
    | inr ho =>
      rw [List.mem_singleton.mp ho]
      show record.createdAt.micros ≤ tracker.outside.now.micros
      exact Int.le_of_eq (congrArg Instant.micros hsince)

/-- An execution adds to both registries what it starts. -/
theorem execute (h : s.Agree origins) (id : Text)
    (hclock : s.now.micros ≤ (s.execute tools id).2.now.micros)
    (hnew : ∀ o ∈ s.started? tools (.execute id), o.job ∉ origins.map (·.job)) :
    (s.execute tools id).2.Agree (origins ++ (s.started? tools (.execute id)).toList) := by
  have hexecuted := executed_execute tools s id
  have hstarted : s.started? tools (.execute id)
      = (s.execute tools id).1.toOption.map fun r => ⟨r.id, id, r.createdAt⟩ := rfl
  generalize s.execute tools id = made at hclock hexecuted hstarted ⊢
  rw [hstarted] at hnew ⊢
  cases hexecuted with
  -- A refusal may have moved the clock, and nothing else.
  | refused fault hjobs =>
    show Agree _ (origins ++ [])
    rw [List.append_nil]
    exact h.unchanged h.kept (fun _ => rfl) (hjobs ▸ h.lists) hclock
  | started hget record hjobs hsession hsince =>
    have horigin : (⟨record.id, id, record.createdAt⟩ : Job.Origin) = record.origin := by
      rw [← hsession]
      rfl
    have hlists := h.lists.enrolled (r := record) (hnew _ rfl)
    rw [← hjobs] at hlists
    show Agree _ (origins ++ [⟨record.id, id, record.createdAt⟩])
    rw [horigin]
    exact h.noted_and_kept hget hsession hsince hlists hclock

/-- A draft that the desk makes, whether or not it can be assessed. -/
theorem conclude (h : s.Agree origins) {id prompt : Text} {made : Except DeskFault Draft × Desk σ}
    (hcommitted : Desk.Committed s.desk id prompt made) :
    (s.conclude tools made).2.Agree origins := by
  have hkept : made.2.KeptById := (Desk.keeps_of_committed Desk.lasting_true h.kept hcommitted).1
  have htracker : (s.conclude tools made).2.tracker = s.tracker := tracker_conclude made
  refine h.unchanged (keptById_conclude hkept) ?_ (htracker ▸ h.lists) ?_
  · intro other
    rw [jobIds_conclude hkept]
    exact Desk.jobIds_of_committed h.kept hcommitted other
  · show s.tracker.outside.now.micros ≤ _
    rw [← htracker]
    exact Int.le_refl _

/-- A request that is made to the desk itself. -/
theorem withDesk (h : s.Agree origins) {desk : Desk σ} (hkept : desk.KeptById)
    (hnoted : ∀ id, desk.jobIds id = s.desk.jobIds id) : Agree { s with desk } origins :=
  h.unchanged hkept hnoted h.lists (Int.le_refl _)

theorem vary (h : s.Agree origins) (design : Design) (count : Int) (id : Option Text) :
    Agree { s with desk := (s.desk.variations tools.desk design count id s.now).2 } origins :=
  h.withDesk (Desk.allSessions_variations Desk.lasting_true h.kept tools.desk design count id s.now)
    (Desk.jobIds_variations h.kept tools.desk design count id s.now)

/-- Whatever starts no job leaves both registries as they are. -/
theorem perform_of_not_execute (h : s.Agree origins) {op : Operation}
    (hop : ∀ id, op ≠ .execute id) (hclock : s.now.micros ≤ (s.perform tools op).now.micros) :
    (s.perform tools op).Agree origins := by
  cases op with
  | execute id => exact absurd rfl (hop id)
  | create prompt id =>
    exact h.conclude (Desk.committed_generate tools.desk s.desk prompt id none s.now)
  | refine id feedback =>
    exact h.conclude (Desk.committed_refine tools.desk s.desk id feedback none s.now)
  | variations id count =>
    show (s.variations tools id count).2.Agree origins
    unfold variations
    split
    · exact h
    · exact h.vary _ count (some id)
  -- The tracker answers these, and keeps its list; the sessions are not touched.
  | status job =>
    exact h.unchanged h.kept (fun _ => rfl) (Job.Tracker.lists_poll h.lists tools.service job)
      hclock
  | cancel job =>
    exact h.unchanged h.kept (fun _ => rfl) (Job.Tracker.lists_cancel h.lists tools.service job)
      hclock
  | download job =>
    exact h.unchanged h.kept (fun _ => rfl) (Job.Tracker.lists_fetch h.lists tools.service job)
      hclock
  | deskGenerate prompt id context =>
    have hcommitted := Desk.committed_generate tools.desk s.desk prompt id context s.now
    exact h.withDesk (Desk.keeps_of_committed Desk.lasting_true h.kept hcommitted).1
      (Desk.jobIds_of_committed h.kept hcommitted)
  | deskRefine id feedback given =>
    have hcommitted := Desk.committed_refine tools.desk s.desk id feedback given s.now
    exact h.withDesk (Desk.keeps_of_committed Desk.lasting_true h.kept hcommitted).1
      (Desk.jobIds_of_committed h.kept hcommitted)
  | deskVariations design count id => exact h.vary design count id
  | moveClock moment => exact h.unchanged h.kept (fun _ => rfl) h.lists hclock

/-- **One operation keeps the registries in agreement.** -/
theorem perform (h : s.Agree origins) (op : Operation)
    (hclock : s.now.micros ≤ (s.perform tools op).now.micros)
    (hnew : ∀ o ∈ s.started? tools op, o.job ∉ origins.map (·.job)) :
    (s.perform tools op).Agree (origins ++ (s.started? tools op).toList) := by
  by_cases hop : ∃ id, op = .execute id
  · obtain ⟨id, rfl⟩ := hop
    exact h.execute id hclock hnew
  · rw [not_exists] at hop
    have hnone : s.started? tools op = none := by
      cases op with
      | execute id => exact absurd rfl (hop id)
      | _ => rfl
    rw [hnone, Option.toList_none, List.append_nil]
    exact h.perform_of_not_execute hop hclock

/-- So does a run, if no two of its jobs have one id. Induction on the operations. -/
theorem run (h : s.Agree origins) {ops : List Operation} (hforward : s.NeverBack tools ops)
    (hdistinct : ((origins ++ s.started tools ops).map (·.job)).Nodup) :
    (s.run tools ops).Agree (origins ++ s.started tools ops) := by
  induction ops generalizing s origins with
  | nil =>
    rw [started, List.append_nil]
    exact h
  | cons op ops ih =>
    obtain ⟨hclock, hforward⟩ := hforward
    rw [started, ← List.append_assoc] at hdistinct ⊢
    apply ih _ hforward hdistinct
    apply h.perform op hclock
    intro o ho hmem
    rw [List.map_append, List.nodup_append] at hdistinct
    rw [List.map_append, ho] at hdistinct
    have hdisjoint := (List.nodup_append.mp hdistinct.1).2.2
    exact hdisjoint o.job hmem o.job (List.mem_singleton_self _) rfl

end Agree

/-! ## The headline -/

/-- A studio in which no job has been started. -/
theorem agree_of_unstarted (hjobs : s.tracker.jobs = {})
    (hsessions : ∀ id session, s.desk.session? id = some session →
      session.id = id ∧ session.jobIds = []) : s.Agree [] where
  kept id session hget := ⟨(hsessions id session hget).1, trivial⟩
  noted id := by
    unfold Desk.jobIds
    cases hget : s.desk.session? id with
    | none => rfl
    | some session => exact (hsessions id session hget).2
  lists := by
    rw [hjobs]
    exact .empty
  ordered := List.Pairwise.nil
  past := List.forall_mem_nil _

/-- **Both registries of jobs agree.** A studio in which no job had been started is run, the clock
never goes back, and no two jobs are given one id. Then each session notes just the jobs that are
found for it, in their order. These are the jobs that the run has started for the session, in the
order in which it has, so each of them is found once for its session and for no other. -/
theorem jobIds_eq_jobs (hjobs : s.tracker.jobs = {})
    (hsessions : ∀ id session, s.desk.session? id = some session →
      session.id = id ∧ session.jobIds = []) {ops : List Operation}
    (hforward : s.NeverBack tools ops) (hdistinct : ((s.started tools ops).map (·.job)).Nodup) :
    (∀ id, (s.run tools ops).desk.jobIds id = ((s.run tools ops).jobs id).map (·.id)) ∧
    (∀ id, ((s.run tools ops).jobs id).map (·.origin)
      = (s.started tools ops).filter (·.session == id)) ∧
    ∀ o ∈ s.started tools ops,
      (((s.run tools ops).jobs o.session).map (·.id)).count o.job = 1 ∧
      ∀ id, id ≠ o.session → o.job ∉ ((s.run tools ops).jobs id).map (·.id) := by
  have hagree : (s.run tools ops).Agree ([] ++ s.started tools ops) :=
    (agree_of_unstarted hjobs hsessions).run hforward hdistinct
  rw [List.nil_append] at hagree
  have hfound : ∀ id, ((s.run tools ops).jobs id).map (·.origin)
      = (s.started tools ops).filter (·.session == id) :=
    Job.Tracker.ofSession_of_lists hagree.lists hagree.ordered
  have hids : ∀ id, ((s.run tools ops).jobs id).map (·.id)
      = ((s.started tools ops).filter (·.session == id)).map (·.job) := by
    intro id
    rw [← hfound, List.map_map]
    rfl
  refine ⟨fun id => (hagree.noted id).trans (hids id).symm, hfound, ?_⟩
  intro o ho
  have hown : o.job ∈ ((s.started tools ops).filter (·.session == o.session)).map (·.job) :=
    List.mem_map_of_mem (List.mem_filter.mpr ⟨ho, beq_self_eq_true _⟩)
  constructor
  · rw [hids]
    exact List.count_eq_one_of_mem (hdistinct.sublist (List.filter_sublist.map _)) hown
  · intro id hid hother
    rw [hids] at hother
    obtain ⟨o', ho', hjob⟩ := List.mem_map.mp hother
    obtain ⟨ho', hsession⟩ := List.mem_filter.mp ho'
    -- a job of one id is one job
    have hsame : o' = o := List.inj_on_of_nodup_map hdistinct ho' ho hjob
    rw [hsame] at hsession
    exact hid (eq_of_beq hsession).symm

/-- A session whose design is empty and counts as ready. -/
def readySession (id : Text) : Session :=
  { id
    design := some {}
    report := some ⟨"", "", none, [], true, 0, [], ⟨0⟩⟩
    createdAt := ⟨0⟩
    updatedAt := ⟨0⟩ }

/-- A studio without a service, with two such sessions. -/
def readyStudio : Studio Unit Unit where
  desk := { remote := (), sessions := ⟨[("s", readySession "s"), ("t", readySession "t")]⟩ }
  tracker := { outside := { now := ⟨0⟩ }, remote := () }

/-- The first job that it starts. -/
def firstJob : Text := Job.Simulator.jobId (Surroundings.issue { now := ⟨0⟩ }).1

/-- Jobs of both sessions, of which the first is polled and cancelled in between, and one of a
session that does not exist. -/
def mixedOperations : List Operation :=
  [.execute "s", .execute "t", .status firstJob, .execute "u", .moveClock ⟨5⟩, .cancel firstJob,
    .execute "s"]

/-- A run with three jobs, two of them started at one moment. -/
theorem jobIds_eq_jobs_readyStudio :
    (readyStudio.started {} mixedOperations).map (·.session) = ["s", "t", "s"] ∧
    ((readyStudio.run {} mixedOperations).desk.jobIds "s").head? = some firstJob ∧
    ∀ id, (readyStudio.run {} mixedOperations).desk.jobIds id
      = ((readyStudio.run {} mixedOperations).jobs id).map (·.id) := by
  -- The two sessions are looked through: neither has a job noted.
  have hsessions : ∀ id session, readyStudio.desk.session? id = some session →
      session.id = id ∧ session.jobIds = [] := by
    intro id session hget
    obtain ⟨before, after, hsplit, -⟩ := List.lookup_eq_some_iff.mp hget
    have hmem : (id, session) ∈ readyStudio.desk.sessions.entries := by
      rw [hsplit]
      simp
    rcases List.mem_cons.mp hmem with hfirst | hmem
    · cases hfirst
      exact ⟨rfl, rfl⟩
    · cases List.mem_singleton.mp hmem
      exact ⟨rfl, rfl⟩
  have hforward : NeverBack {} readyStudio mixedOperations := by decide +kernel
  have hdistinct : ((readyStudio.started {} mixedOperations).map (·.job)).Nodup := by
    decide +kernel
  exact ⟨by decide +kernel, by decide +kernel,
    (jobIds_eq_jobs rfl hsessions hforward hdistinct).1⟩

end Studio

end FamilyDesign
