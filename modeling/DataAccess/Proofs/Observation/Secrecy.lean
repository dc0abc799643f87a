import DataAccess.Proofs.Observation.Outline
import DataAccess.Proofs.Observation.Runs

/-!
# What reports give away

Of a statement, a report shows the kind and the table, and the text only under settings that log
statements. It never shows the arguments.

This is said of two runs that take the same turns. What their statements do is up to them. But at
every point, what the runs have recorded is the same so far (`SameSoFar`): the same calls of the
observer, but for what is hidden of statements, with the same failures; the same settings; and every
statement takes as long in one run as in the other. Then the lines and spans that are reported are
the same (`reports_hide_statements`).

A turn of a task is looked at in both runs at once. `Stage` says what is left of its programs, from
its start to its last report.
-/

namespace DataAccess.Access

open Observation Sql Recording Program

variable {ι σ σ' α α' β β' : Type} {i : ι} {q q' : Statement} {start : Observer}
variable {hide : Statement → Statement} {allowed : Observability → Prop}

/-! ### Pools that look the same -/

namespace Recorded

theorem observer_openSpan (i : ι) (q : Statement) (s : Recorded ι σ) :
    (openSpan i q s).2.pool.observer.draw = s.pool.observer.draw ∧
      (openSpan i q s).2.pool.observer.drawn = s.pool.observer.drawn := by
  unfold openSpan
  split
  · exact ⟨rfl, rfl⟩
  · exact ⟨rfl, rfl⟩

/-- Two pools that started with the same observer, and have reported the same. -/
structure Alike [DecidableEq ι] (start : Observer) (hide : Statement → Statement)
    (s : Recorded ι σ) (s' : Recorded ι σ') : Prop where
  left : s.Consistent start
  right : s'.Consistent start
  same : SameSoFar hide s.recording s'.recording
  events : events s.recording = events s'.recording
  draw : s.pool.observer.draw = s'.pool.observer.draw
  drawn : s.pool.observer.drawn = s'.pool.observer.drawn

variable {s s₁ : Recorded ι σ} {s' s₁' : Recorded ι σ'} {ns ns' : List Note}

theorem Alike.settings [DecidableEq ι] (h : Alike start hide s s') :
    s.pool.observer.plugin.settings = s'.pool.observer.plugin.settings := by
  rw [h.left.settings, h.right.settings, ← inForce_outline hide _ s.recording,
    h.same.outline, inForce_outline]

theorem Alike.reported [DecidableEq ι] (h : Alike start hide s s') :
    s.pool.observer.reported = s'.pool.observer.reported := by
  have hreverse := h.left.reported
  rw [h.events, ← h.right.reported] at hreverse
  exact List.reverse_injective hreverse

/-- A piece that neither reports nor draws. -/
structure Quietly (i : ι) (s s₁ : Recorded ι σ) : Prop where
  adds : ∃ ns : List Note, Adds i s s₁ ns ∧ events (ns.map (i, ·)) = []
  draw : s₁.pool.observer.draw = s.pool.observer.draw
  drawn : s₁.pool.observer.drawn = s.pool.observer.drawn

theorem quietly_refl (i : ι) (s : Recorded ι σ) : Quietly i s s :=
  ⟨⟨[], adds_nothing rfl rfl, rfl⟩, rfl, rfl⟩

theorem quietly_idle (i : ι) (s : Recorded ι σ) : Quietly i s s.idle :=
  ⟨⟨[], adds_nothing rfl rfl, rfl⟩, rfl, rfl⟩

theorem quietly_look (i : ι) (q : Statement) (failure : Option Error) (s : Recorded ι σ) :
    Quietly i s (look i q failure s).2 :=
  ⟨⟨[.after q failure], adds_look i q failure s, rfl⟩, rfl, rfl⟩

theorem quietly_connection (i : ι) (c : Option σ) (s : Recorded ι σ) :
    Quietly i s (s.withConnection c) :=
  ⟨⟨[], ⟨(List.append_nil _).symm, rfl, rfl, (List.append_nil _).symm⟩, rfl⟩, rfl, rfl⟩

theorem quietly_apply (i : ι) (o : Observability) (s : Recorded ι σ) :
    Quietly i s (apply i o s).2 := by
  unfold Recorded.apply Observer.apply Plugin.apply
  cases o.validate with
  | ok _ =>
    exact ⟨⟨[.settings o], ⟨rfl, rfl, rfl, (List.append_nil _).symm⟩, rfl⟩, rfl, rfl⟩
  | error e => exact quietly_refl i s

end Recorded

/-! ### Programs that report nothing -/

open Recorded

/-- A program that neither reports nor draws. -/
inductive Quiet (i : ι) : Program (Recorded ι σ) α → Prop
  | done (a : α) : Quiet i (.done a)
  | next {ready : Recorded ι σ → Bool} {piece : Recorded ι σ → Recorded ι σ}
      {rest : Recorded ι σ → Program (Recorded ι σ) α} (hpiece : ∀ s, Quietly i s (piece s))
      (hrest : ∀ s, Quiet i (rest s)) : Quiet i (.next ready piece rest)

namespace Quiet

theorem bind {p : Program (Recorded ι σ) α} {f : α → Program (Recorded ι σ) β}
    (hp : Quiet i p) (hf : ∀ a, Quiet i (f a)) : Quiet i (p >>= f) := by
  induction hp with
  | done a => exact hf a
  | next hpiece hrest ih => exact .next hpiece ih

theorem atomic {work : StateM (Recorded ι σ) α} (h : ∀ s, Quietly i s (work s).2) :
    Quiet i (Program.atomic work) :=
  .next h fun _ => .done _

theorem onConnection (work : Program (Option σ) α) :
    Quiet i (work.onConnection : Program (Recorded ι σ) α) := by
  induction work with
  | done a => exact .done a
  | next ready piece rest ih =>
    apply Quiet.next
    · intro s
      exact quietly_connection i _ s
    · intro s
      exact ih _

theorem advance {p : Program (Recorded ι σ) α} (hp : Quiet i p) (s : Recorded ι σ) :
    Quietly i s (p.advance s).1 ∧ Quiet i (p.advance s).2 := by
  cases hp with
  | done a => exact ⟨quietly_refl i s, .done a⟩
  | next hpiece hrest =>
    rw [Program.advance]
    split
    · exact ⟨hpiece s, hrest s⟩
    · exact ⟨quietly_refl i s, .next hpiece hrest⟩

end Quiet

/-! ### Stages of an operation in two runs -/

namespace Operation

/-- What is left of a statement once it is open. -/
def concluding (i : ι) (q : Statement) (work : Program (Option σ) (Except Error α))
    (guard : Option Guard) : Program (Recorded ι σ) (Except Error α) := do
  let r ← work.onConnection
  finishing i q (failureOf r) guard
  return r

/-- What is left of a statement once its span is open. -/
def timing (i : ι) (q : Statement) (work : Program (Option σ) (Except Error α))
    (span : Option String) : Program (Recorded ι σ) (Except Error α) := do
  let started ← atomic (readClock i)
  concluding i q work (some ⟨started, span⟩)

/-- What is left of a statement once it is known how long it took. -/
def settling (i : ι) (q : Statement) (elapsed : Time) (span : Option String)
    (r : Except Error α) : Program (Recorded ι σ) (Except Error α) := do
  let settings ← atomic (look i q (failureOf r))
  emitAll i (Plugin.report settings q elapsed span ((failureOf r).map Error.message))
  return r

theorem quiet_concluding (i : ι) (q : Statement) (work : Program (Option σ) (Except Error α)) :
    Quiet i (concluding i q work none) := by
  apply (Quiet.onConnection work).bind
  intro r
  refine .next (fun s => quietly_idle i s) fun _ => ?_
  exact .next (fun s => quietly_look i q (failureOf r) s) fun _ => .done r

theorem advance_atomic_bind (work : StateM (Recorded ι σ) β) (f : β → Program (Recorded ι σ) α)
    (s : Recorded ι σ) : (atomic work >>= f).advance s = ((work s).2, f (work s).1) := rfl

theorem observing_eq (i : ι) (q : Statement) (work : Program (Option σ) (Except Error α)) :
    (observing i q work : Program (Recorded ι σ) _) =
      atomic (sample i q) >>= fun sampled => opening i q sampled >>= concluding i q work := by
  have hstarting : (starting i q : Program (Recorded ι σ) _) = atomic (sample i q) >>= opening i q :=
    rfl
  show starting i q >>= concluding i q work = _
  rw [hstarting, Program.bind_assoc]

theorem opening_true_bind (i : ι) (q : Statement) (work : Program (Option σ) (Except Error α)) :
    (opening i q true >>= concluding i q work : Program (Recorded ι σ) _) =
      atomic (openSpan i q) >>= timing i q work := rfl

theorem advance_concluding_next (q : Statement) (ready : Option σ → Bool)
    (piece : Option σ → Option σ) (rest : Option σ → Program (Option σ) (Except Error α))
    (guard : Option Guard) (s : Recorded ι σ) :
    ∃ s₁ work₁, (concluding i q (.next ready piece rest) guard).advance s =
      (s₁, concluding i q work₁ guard) ∧ Adds i s s₁ [] ∧
      s₁.pool.observer.draw = s.pool.observer.draw ∧
      s₁.pool.observer.drawn = s.pool.observer.drawn := by
  show ∃ s₁ work₁, (if ready s.pool.connection then
    (s.withConnection (piece s.pool.connection), concluding i q (rest s.pool.connection) guard)
    else (s, concluding i q (.next ready piece rest) guard)) = _ ∧ _
  split
  · refine ⟨_, _, rfl, ⟨?_, rfl, rfl, ?_⟩, rfl, rfl⟩
    · exact (List.append_nil _).symm
    · exact (List.append_nil _).symm
  · exact ⟨_, _, rfl, adds_nothing rfl rfl, rfl, rfl⟩

theorem advance_concluding_done {s : Recorded ι σ} (r : Except Error α) (guard : Guard) :
    (concluding i q (.done r) (some guard)).advance s =
      ((readClock i s).2,
        settling i q (s.pool.observer.now - guard.started) guard.span r) := rfl

/-- What is left of an operation in two runs. Of a statement that is open it is known when it
started, and later, that it took equally long. -/
inductive Stage (hide : Statement → Statement) (i : ι) : {α α' : Type} → List Time → List Time →
    Program (Recorded ι σ) α → Program (Recorded ι σ') α' → Prop
  | quiet {α α' : Type} {ts ts' : List Time} {p : Program (Recorded ι σ) α}
      {p' : Program (Recorded ι σ') α'} (hp : Quiet i p) (hp' : Quiet i p') :
      Stage hide i ts ts' p p'
  | fresh {α α' : Type} {q q' : Statement} {work : Program (Option σ) (Except Error α)}
      {work' : Program (Option σ') (Except Error α')} :
      Stage hide i [] [] (observing i q work) (observing i q' work')
  | sampled {α α' : Type} {q q' : Statement} {work : Program (Option σ) (Except Error α)}
      {work' : Program (Option σ') (Except Error α')} (hq : hide q = hide q') :
      Stage hide i [] [] (opening i q true >>= concluding i q work)
        (opening i q' true >>= concluding i q' work')
  | timing {α α' : Type} {q q' : Statement} {work : Program (Option σ) (Except Error α)}
      {work' : Program (Option σ') (Except Error α')} (span : Option String)
      (hq : hide q = hide q') :
      Stage hide i [] [] (timing i q work span) (timing i q' work' span)
  | working {α α' : Type} {q q' : Statement} {work : Program (Option σ) (Except Error α)}
      {work' : Program (Option σ') (Except Error α')} {t t' : Time} (span : Option String)
      (hq : hide q = hide q') :
      Stage hide i [t] [t'] (concluding i q work (some ⟨t, span⟩))
        (concluding i q' work' (some ⟨t', span⟩))
  | settling {α α' : Type} {ts ts' : List Time} {q q' : Statement} {r : Except Error α}
      {r' : Except Error α'} (elapsed : Time) (span : Option String) (hq : hide q = hide q') :
      Stage hide i ts ts' (settling i q elapsed span r) (settling i q' elapsed span r')
  | reporting {α α' : Type} {ts ts' : List Time} {r : α} {r' : α'} (es : List Event) :
      Stage hide i ts ts' (emitAll i es >>= fun _ => pure r) (emitAll i es >>= fun _ => pure r')

def isStatement : Operation σ α → Bool
  | statement .. => true
  | _ => false

theorem quiet_program (i : ι) {op : Operation σ α} (hop : op.isStatement = false) :
    Quiet i (op.program i) := by
  cases op with
  | statement q work => cases hop
  | control work => exact .onConnection work
  | apply o => exact .atomic fun s => quietly_apply i o s
  | wait t => exact .atomic fun s => ⟨⟨[], adds_nothing rfl rfl, rfl⟩, rfl, rfl⟩

theorem stage_program (i : ι) {op : Operation σ α} {op' : Operation σ' α'}
    (hop : op.isStatement = op'.isStatement) :
    Stage hide i [] [] (op.program i) (op'.program i) := by
  cases op with
  | statement q work =>
    cases op' with
    | statement q' work' => exact .fresh
    | control work' => cases hop
    | apply o' => cases hop
    | wait t' => cases hop
  | control work => exact .quiet (.onConnection work) (quiet_program i hop.symm)
  | apply o => exact .quiet (quiet_program i rfl) (quiet_program i hop.symm)
  | wait t => exact .quiet (quiet_program i rfl) (quiet_program i hop.symm)

variable [DecidableEq ι] {s s₁ : Recorded ι σ} {s' s₁' : Recorded ι σ'} {ns ns' : List Note}
variable {p p₁ : Program (Recorded ι σ) α} {p' p₁' : Program (Recorded ι σ') α'}

/-- A turn of one task in two runs. -/
structure Turn (start : Observer) (hide : Statement → Statement) (i : ι) (s : Recorded ι σ)
    (s' : Recorded ι σ') (after : Recorded ι σ × Program (Recorded ι σ) α)
    (after' : Recorded ι σ' × Program (Recorded ι σ') α') : Prop where
  left : ∃ ns : List Note, after.1.recording = s.recording ++ ns.map (i, ·)
  right : ∃ ns : List Note, after'.1.recording = s'.recording ++ ns.map (i, ·)
  alike : Alike start hide after.1 after'.1
  stage : Stage hide i (readings i after.1.recording) (readings i after'.1.recording) after.2 after'.2

theorem Turn.of_adds (h : Alike start hide s s') (hadds : Adds i s s₁ ns)
    (hadds' : Adds i s' s₁' ns') (hevents : events (ns.map (i, ·)) = events (ns'.map (i, ·)))
    (hdraw : s₁.pool.observer.draw = s₁'.pool.observer.draw)
    (hdrawn : s₁.pool.observer.drawn = s₁'.pool.observer.drawn)
    (hsame : SameSoFar hide s₁.recording s₁'.recording)
    (hstage : Stage hide i (readings i s.recording ++ ns.filterMap Note.time?)
      (readings i s'.recording ++ ns'.filterMap Note.time?) p₁ p₁') :
    Turn start hide i s s' (s₁, p₁) (s₁', p₁') := by
  refine ⟨⟨ns, hadds.recording⟩, ⟨ns', hadds'.recording⟩, ?_, ?_⟩
  · refine ⟨hadds.consistent h.left, hadds'.consistent h.right, hsame, ?_, hdraw, hdrawn⟩
    show events s₁.recording = events s₁'.recording
    rw [hadds.recording, hadds'.recording, events_append, events_append, h.events, hevents]
  · show Stage hide i (readings i s₁.recording) (readings i s₁'.recording) p₁ p₁'
    rw [hadds.recording, hadds'.recording, readings_own, readings_own]
    exact hstage

/-! ### Turns -/

theorem turn_quiet (h : Alike start hide s s') (hp : Quiet i p) (hp' : Quiet i p')
    (hsame : SameSoFar hide (p.advance s).1.recording (p'.advance s').1.recording) :
    Turn start hide i s s' (p.advance s) (p'.advance s') := by
  obtain ⟨⟨⟨ns, hadds, hnone⟩, hdraw, hdrawn⟩, hrest⟩ := hp.advance s
  obtain ⟨⟨⟨ns', hadds', hnone'⟩, hdraw', hdrawn'⟩, hrest'⟩ := hp'.advance s'
  apply Turn.of_adds h hadds hadds'
  · rw [hnone, hnone']
  · rw [hdraw, hdraw', h.draw]
  · rw [hdrawn, hdrawn', h.drawn]
  · exact hsame
  · exact .quiet hrest hrest'

section

variable {work : Program (Option σ) (Except Error β)} {work' : Program (Option σ') (Except Error β')}

/-- Whether statements are sampled is decided by the same draw, at the same rate. -/
theorem turn_fresh (h : Alike start hide s s') (hts : readings i s.recording = [])
    (hts' : readings i s'.recording = [])
    (hsame : SameSoFar hide ((observing i q work).advance s).1.recording
      ((observing i q' work').advance s').1.recording) :
    Turn start hide i s s' ((observing i q work).advance s) ((observing i q' work').advance s') := by
  rw [observing_eq, observing_eq, advance_atomic_bind, advance_atomic_bind] at hsame ⊢
  -- Settings show in outlines, and both runs have drawn as often.
  have hsampled : (sample i q s).1 = (sample i q' s').1 := by
    rw [sample_eq, sample_eq, h.settings, h.draw, h.drawn]
  have hq : hide q = hide q' := by
    have hnotes := h.same.added [.before q] [.before q'] hsame
    injection (List.cons.inj hnotes).1
  rw [hsampled]
  apply Turn.of_adds h (adds_sample i q s) (adds_sample i q' s') rfl h.draw
  · show s.pool.observer.drawn + 1 = s'.pool.observer.drawn + 1
    rw [h.drawn]
  · exact hsame
  rw [hts, hts']
  cases (sample i q' s').1 with
  | true => exact .sampled hq
  | false =>
    apply Stage.quiet
    · exact .next (fun s => quietly_idle i s) fun _ => quiet_concluding i q work
    · exact .next (fun s => quietly_idle i s) fun _ => quiet_concluding i q' work'

theorem turn_sampled (hlaw : ∀ q q', hide q = hide q' → Indistinct allowed q q')
    (h : Alike start hide s s') (hts : readings i s.recording = [])
    (hts' : readings i s'.recording = []) (hq : hide q = hide q')
    (hsame : SameSoFar hide ((opening i q true >>= concluding i q work).advance s).1.recording
      ((opening i q' true >>= concluding i q' work').advance s').1.recording) :
    Turn start hide i s s' ((opening i q true >>= concluding i q work).advance s)
      ((opening i q' true >>= concluding i q' work').advance s') := by
  rw [opening_true_bind, opening_true_bind, advance_atomic_bind, advance_atomic_bind] at hsame ⊢
  obtain ⟨hadds, hspan⟩ := adds_openSpan (i := i) (q := q) h.left
  obtain ⟨hadds', hspan'⟩ := adds_openSpan (i := i) (q := q') h.right
  have htime : ∀ q : Statement, (spanNotes start.plugin.traced q).filterMap Note.time? = [] := by
    intro q
    unfold spanNotes
    split
    · rfl
    · rfl
  have hkind : q.kind = q'.kind := (hlaw q q' hq).kind
  have hnotes : spanNotes start.plugin.traced q = spanNotes start.plugin.traced q' := by
    unfold spanNotes
    rw [hkind, (hlaw q q' hq).table]
  obtain ⟨hdraw, hdrawn⟩ := observer_openSpan i q s
  obtain ⟨hdraw', hdrawn'⟩ := observer_openSpan i q' s'
  apply Turn.of_adds h hadds hadds'
  · rw [hnotes]
  · rw [hdraw, hdraw', h.draw]
  · rw [hdrawn, hdrawn', h.drawn]
  · exact hsame
  · rw [hts, hts', htime, htime, hspan, hspan', hkind]
    exact .timing _ hq

theorem turn_timing (h : Alike start hide s s') (hts : readings i s.recording = [])
    (hts' : readings i s'.recording = []) (span : Option String) (hq : hide q = hide q')
    (hsame : SameSoFar hide ((timing i q work span).advance s).1.recording
      ((timing i q' work' span).advance s').1.recording) :
    Turn start hide i s s' ((timing i q work span).advance s)
      ((timing i q' work' span).advance s') := by
  unfold timing at hsame ⊢
  rw [advance_atomic_bind, advance_atomic_bind] at hsame ⊢
  apply Turn.of_adds h (adds_readClock i s) (adds_readClock i s') rfl h.draw h.drawn hsame
  rw [hts, hts']
  exact .working span hq

/-- The settings that are found are the same, and under them both reports are. -/
theorem turn_settling (hlaw : ∀ q q', hide q = hide q' → Indistinct allowed q q')
    (h : Alike start hide s s') (hallowed : allowed s.pool.observer.plugin.settings)
    {r : Except Error β} {r' : Except Error β'} (elapsed : Time) (span : Option String)
    (hq : hide q = hide q')
    (hsame : SameSoFar hide ((settling i q elapsed span r).advance s).1.recording
      ((settling i q' elapsed span r').advance s').1.recording) :
    Turn start hide i s s' ((settling i q elapsed span r).advance s)
      ((settling i q' elapsed span r').advance s') := by
  unfold settling at hsame ⊢
  rw [advance_atomic_bind, advance_atomic_bind] at hsame ⊢
  have hfailure : failureOf r = failureOf r' := by
    have hnotes := h.same.added [.after q (failureOf r)] [.after q' (failureOf r')] hsame
    injection (List.cons.inj hnotes).1
  apply Turn.of_adds h (adds_look i q _ s) (adds_look i q' _ s') rfl h.draw h.drawn hsame
  show Stage hide i _ _
    (emitAll i (Plugin.report s.pool.observer.plugin.settings q elapsed span _) >>= fun _ => pure r)
    (emitAll i (Plugin.report s'.pool.observer.plugin.settings q' elapsed span _) >>= fun _ =>
      pure r')
  -- Here the law is used: the texts differ only under settings that do not log them.
  rw [← hfailure, ← h.settings, (hlaw q q' hq).report_eq hallowed]
  exact .reporting _

theorem turn_reporting (h : Alike start hide s s') {r : β} {r' : β'} (es : List Event)
    (hsame : SameSoFar hide
      ((emitAll i es >>= fun _ => pure r : Program (Recorded ι σ) β).advance s).1.recording
      ((emitAll i es >>= fun _ => pure r' : Program (Recorded ι σ') β').advance s').1.recording) :
    Turn start hide i s s' ((emitAll i es >>= fun _ => pure r).advance s)
      ((emitAll i es >>= fun _ => pure r').advance s') := by
  cases es with
  | nil => exact turn_quiet h (.done r) (.done r') hsame
  | cons e rest =>
    exact Turn.of_adds h (adds_emit i e s) (adds_emit i e s') rfl h.draw h.drawn hsame
      (.reporting rest)

/-- Both statements go on, or both look at the clock: anything else would show. -/
theorem turn_working (h : Alike start hide s s') {t t' : Time} (hts : readings i s.recording = [t])
    (hts' : readings i s'.recording = [t']) (span : Option String) (hq : hide q = hide q')
    (hsame : SameSoFar hide ((concluding i q work (some ⟨t, span⟩)).advance s).1.recording
      ((concluding i q' work' (some ⟨t', span⟩)).advance s').1.recording) :
    Turn start hide i s s' ((concluding i q work (some ⟨t, span⟩)).advance s)
      ((concluding i q' work' (some ⟨t', span⟩)).advance s') := by
  cases work with
  | done r =>
    have hadds := adds_readClock i s
    rw [advance_concluding_done] at hsame ⊢
    cases work' with
    | done r' =>
      have hadds' := adds_readClock i s'
      rw [advance_concluding_done] at hsame ⊢
      -- This is the second reading in both runs, so the times that statements took are known.
      have helapsed : s.pool.observer.now - t = s'.pool.observer.now - t' := by
        have hsame := hsame.elapsed i
        rw [hadds.recording, hadds'.recording, elapsed_of_readings, elapsed_of_readings] at hsame
        · exact Option.some_inj.mp hsame
        · rw [readings_own, hts']
          rfl
        · rw [readings_own, hts]
          rfl
      apply Turn.of_adds h hadds hadds' rfl h.draw h.drawn hsame
      rw [helapsed]
      exact .settling _ span hq
    | next ready' piece' rest' =>
      -- One looks at the clock and the other one does not, which an outline shows.
      obtain ⟨s₁', work₁', hturn', hadds', -, -⟩ := advance_concluding_next (i := i) q'
        ready' piece' rest' (some ⟨t', span⟩) s'
      rw [hturn', hadds'.recording, hadds.recording] at hsame
      cases h.same.added _ _ hsame
  | next ready piece rest =>
    obtain ⟨s₁, work₁, hturn, hadds, hdraw, hdrawn⟩ := advance_concluding_next (i := i) q ready
      piece rest (some ⟨t, span⟩) s
    rw [hturn] at hsame ⊢
    cases work' with
    | done r' =>
      have hadds' := adds_readClock i s'
      rw [advance_concluding_done, hadds.recording, hadds'.recording] at hsame
      cases h.same.added _ _ hsame
    | next ready' piece' rest' =>
      obtain ⟨s₁', work₁', hturn', hadds', hdraw', hdrawn'⟩ := advance_concluding_next (i := i) q'
        ready' piece' rest' (some ⟨t', span⟩) s'
      rw [hturn'] at hsame ⊢
      apply Turn.of_adds h hadds hadds' rfl
      · rw [hdraw, hdraw', h.draw]
      · rw [hdrawn, hdrawn', h.drawn]
      · exact hsame
      · rw [hts, hts']
        exact .working span hq

end

theorem Stage.turn (hlaw : ∀ q q', hide q = hide q' → Indistinct allowed q q')
    (h : Alike start hide s s') (hallowed : allowed s.pool.observer.plugin.settings)
    (hstage : Stage hide i (readings i s.recording) (readings i s'.recording) p p')
    (hsame : SameSoFar hide (p.advance s).1.recording (p'.advance s').1.recording) :
    Turn start hide i s s' (p.advance s) (p'.advance s') := by
  generalize hts : readings i s.recording = ts at hstage
  generalize hts' : readings i s'.recording = ts' at hstage
  cases hstage with
  | quiet hp hp' => exact turn_quiet h hp hp' hsame
  | fresh => exact turn_fresh h hts hts' hsame
  | sampled hq => exact turn_sampled hlaw h hts hts' hq hsame
  | timing span hq => exact turn_timing h hts hts' span hq hsame
  | working span hq => exact turn_working h hts hts' span hq hsame
  | settling elapsed span hq => exact turn_settling hlaw h hallowed elapsed span hq hsame
  | reporting es => exact turn_reporting h es hsame

end Operation

/-! ### Runs -/

open Operation

variable [DecidableEq ι] {p : Pooled σ} {p' : Pooled σ'}
variable {ops : ι → Σ α : Type, Operation σ α} {ops' : ι → Σ α : Type, Operation σ' α}

/-- Two systems that have reported the same, with tasks that are at the same stages. -/
structure System.Alike (start : Observer) (hide : Statement → Statement)
    (c : System ι (Performed ι σ) (Recorded ι σ))
    (c' : System ι (Performed ι σ') (Recorded ι σ')) : Prop where
  state : Recorded.Alike start hide c.state c'.state
  tasks : ∀ i, Stage hide i (readings i c.state.recording) (readings i c'.state.recording)
    (c.tasks i).rest (c'.tasks i).rest

theorem System.Alike.turn {c : System ι (Performed ι σ) (Recorded ι σ)}
    {c' : System ι (Performed ι σ') (Recorded ι σ')} (h : System.Alike start hide c c')
    (hlaw : ∀ q q', hide q = hide q' → Indistinct allowed q q')
    (hallowed : allowed c.state.pool.observer.plugin.settings) (i : ι)
    (hsame : SameSoFar hide (c.turn i).state.recording (c'.turn i).state.recording) :
    System.Alike start hide (c.turn i) (c'.turn i) := by
  rw [System.turn_eq, System.turn_eq] at hsame ⊢
  obtain ⟨⟨ns, hleft⟩, ⟨ns', hright⟩, hstate, hstage⟩ :=
    Stage.turn hlaw h.state hallowed (h.tasks i) hsame
  refine ⟨hstate, fun j => ?_⟩
  by_cases hj : j = i
  · subst hj
    dsimp only
    rw [Function.update_self, Function.update_self]
    exact hstage
  · dsimp only
    -- The others have noted nothing, so they are where they were.
    rw [Function.update_of_ne hj, Function.update_of_ne hj, hleft, hright,
      readings_others (Ne.symm hj), readings_others (Ne.symm hj)]
    exact h.tasks j

/-- The system after tasks have taken some turns with their operations. -/
def System.afterTurns (p : Pooled σ) (ops : ι → Σ α : Type, Operation σ α) (is : List ι) :
    System ι (Performed ι σ) (Recorded ι σ) := (System.ofOperations p ops).turns is

/-- Runs that look the same so far after each of their turns. -/
def SameCourse (hide : Statement → Statement) (p : Pooled σ)
    (ops : ι → Σ α : Type, Operation σ α) (p' : Pooled σ')
    (ops' : ι → Σ α : Type, Operation σ' α) (is : List ι) : Prop :=
  ∀ js, js <+: is → SameSoFar hide (System.afterTurns p ops js).state.recording
    (System.afterTurns p' ops' js).state.recording

/-- The settings are allowed throughout a run. -/
def Throughout (allowed : Observability → Prop) (p : Pooled σ)
    (ops : ι → Σ α : Type, Operation σ α) (is : List ι) : Prop :=
  ∀ js, js <+: is → allowed (System.afterTurns p ops js).state.pool.observer.plugin.settings

/-- What has been reported after a run, the newest first. -/
def reportedAfter (p : Pooled σ) (ops : ι → Σ α : Type, Operation σ α) (is : List ι) :
    List Event := (System.afterTurns p ops is).state.pool.observer.reported

instance [Fintype ι] (is : List ι) : Decidable (SameCourse hide p ops p' ops' is) :=
  decidable_of_iff (∀ js ∈ is.inits, SameSoFar hide (System.afterTurns p ops js).state.recording
    (System.afterTurns p' ops' js).state.recording) (by simp only [List.mem_inits, SameCourse])

instance [DecidablePred allowed] (is : List ι) : Decidable (Throughout allowed p ops is) :=
  decidable_of_iff (∀ js ∈ is.inits,
    allowed (System.afterTurns p ops js).state.pool.observer.plugin.settings)
    (by simp only [List.mem_inits, Throughout])

theorem System.alike_afterTurns (hlaw : ∀ q q', hide q = hide q' → Indistinct allowed q q')
    (hobserver : p.observer = p'.observer)
    (hops : ∀ i, (ops i).2.isStatement = (ops' i).2.isStatement) (is : List ι)
    (hallowed : Throughout allowed p ops is) (hsame : SameCourse hide p ops p' ops' is) :
    System.Alike p.observer hide (afterTurns p ops is) (afterTurns p' ops' is) := by
  induction is using List.reverseRecOn with
  | nil =>
    refine ⟨⟨(keeps_ofOperations p ops).inv, ?_, hsame [] (List.prefix_refl _), rfl, ?_, ?_⟩, ?_⟩
    · rw [hobserver]
      exact (keeps_ofOperations p' ops').inv
    · exact congrArg Observer.draw hobserver
    · exact congrArg Observer.drawn hobserver
    · intro i
      exact stage_program i (hops i)
  | append_singleton is i ih =>
    have hshorter : ∀ js, js <+: is → js <+: is ++ [i] := fun js hjs =>
      hjs.trans (List.prefix_append is [i])
    have halike := ih (fun js hjs => hallowed js (hshorter js hjs))
      fun js hjs => hsame js (hshorter js hjs)
    have hnext := hsame _ (List.prefix_refl _)
    unfold afterTurns System.turns at halike hnext ⊢
    rw [List.foldl_append, List.foldl_append] at hnext ⊢
    exact halike.turn hlaw (hallowed is (hshorter is (List.prefix_refl is))) i hnext

/-- Two runs of operations on one observer that look the same so far at any point, but for texts
and arguments, report the same if statements are never logged. If they look the same but for
arguments, they report the same under any settings. -/
theorem reports_hide_statements (hobserver : p.observer = p'.observer)
    (hops : ∀ i, (ops i).2.isStatement = (ops' i).2.isStatement) (is : List ι) :
    (Throughout (fun settings => settings.logSql = false) p ops is →
      SameCourse hideText p ops p' ops' is → reportedAfter p ops is = reportedAfter p' ops' is) ∧
    (SameCourse hideArgs p ops p' ops' is →
      reportedAfter p ops is = reportedAfter p' ops' is) := by
  constructor
  · intro hoff hsame
    exact (System.alike_afterTurns (fun _ _ => indistinct_of_hideText) hobserver hops is hoff
      hsame).state.reported
  · intro hsame
    exact (System.alike_afterTurns (fun _ _ => indistinct_of_hideArgs) hobserver hops is
      (fun _ _ => trivial) hsame).state.reported

/-! ### Queries with secrets -/

/-- A query that is slow and is then given up, and the time that passes meanwhile. -/
def slowQuery (q : Statement) : Fin 2 → Σ α : Type, Operation Unit α
  | 0 => ⟨Except Error Nat, .statement q (.atomic fun c => (.error .timeout, c))⟩
  | 1 => ⟨Unit, .wait 2_000_000_000⟩

/-- A query with a secret among its arguments. -/
def tokenQuery (secret : String) : Statement :=
  { userQuery with sql := "SELECT * FROM users WHERE token = ?", args := [.text secret] }

/-- A pool whose observer logs statements or does not. -/
def loggingPool (logSql : Bool) : Pooled Unit :=
  ⟨some (), .ofPlugin ⟨{ Observability.standard with logSql }, true⟩, []⟩

/-- The turns of a query and of the time that passes before it is over. -/
def slowTurns : List (Fin 2) := [0, 0, 0, 0, 1, 0, 0, 0, 0, 0, 0, 0]

theorem reports_hide_statements_tokenQuery :
    (Throughout (fun settings => settings.logSql = false) (loggingPool false) (slowQuery userQuery)
        slowTurns ∧
      SameCourse hideText (loggingPool false) (slowQuery userQuery) (loggingPool false)
        (slowQuery (tokenQuery "mellon")) slowTurns ∧
      SameCourse hideArgs (loggingPool true) (slowQuery (tokenQuery "friend")) (loggingPool true)
        (slowQuery (tokenQuery "mellon")) slowTurns ∧
      (reportedAfter (loggingPool false) (slowQuery userQuery) slowTurns).reverse =
        [.spanStart "db.query" "users",
          .line .error "query failed" [("table", "users"), ("operation", "query"),
            ("duration_ms", "2000"), ("error", Error.timeout.message)],
          .spanError "db.query" Error.timeout.message,
          .line .warn "slow query" [("table", "users"), ("operation", "query"),
            ("duration_ms", "2000")],
          .spanEnd "db.query"]) ∧
    reportedAfter (loggingPool false) (slowQuery userQuery) slowTurns =
      reportedAfter (loggingPool false) (slowQuery (tokenQuery "mellon")) slowTurns ∧
    reportedAfter (loggingPool true) (slowQuery (tokenQuery "friend")) slowTurns =
      reportedAfter (loggingPool true) (slowQuery (tokenQuery "mellon")) slowTurns := by
  have hkind : ∀ q q' i, (slowQuery q i).2.isStatement = (slowQuery q' i).2.isStatement := by
    intro q q' i
    match i with
    | 0 => rfl
    | 1 => rfl
  refine (and_iff_left_of_imp fun hcourse => ⟨?_, ?_⟩).mpr (by decide +kernel)
  · exact (reports_hide_statements rfl (hkind _ _) slowTurns).1 hcourse.1 hcourse.2.1
  · exact (reports_hide_statements rfl (hkind _ _) slowTurns).2 hcourse.2.2.1

end DataAccess.Access
