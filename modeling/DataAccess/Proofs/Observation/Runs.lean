import DataAccess.Proofs.Observation.Operations

/-!
# Observation is complete and well paired

However the pieces of operations and changes of settings are interleaved, every statement that is
over was observed from its start to its end: it is reported exactly if it was sampled at its start,
under the settings in force at its end, and whatever is no statement is not reported
(`observation_of_runs`).

Tasks promise each other no more than to add notes of their own to the recording (`recorded`). What
a task did itself is not changed by that (`Lasting`).
-/

namespace DataAccess.Access

open Observation Sql Recording Protocol

variable {ι σ α β : Type} {first : Observability} {i : ι} {q : Statement}

/-! ### What a piece does -/

namespace Recorded

/-- A recording that agrees with the observer, from a first observer on. -/
structure Consistent (start : Observer) (s : Recorded ι σ) : Prop where
  settings : s.pool.observer.plugin.settings = inForce start.plugin.settings s.recording
  traced : s.pool.observer.plugin.traced = start.plugin.traced
  reported : s.pool.observer.reported.reverse = start.reported.reverse ++ events s.recording

/-- A piece of a task adds notes to a recording and does to the observer what they say. -/
structure Adds (i : ι) (s s' : Recorded ι σ) (ns : List Note) : Prop where
  recording : s'.recording = s.recording ++ ns.map (i, ·)
  settings : s'.pool.observer.plugin.settings =
    inForce s.pool.observer.plugin.settings (ns.map (i, ·))
  traced : s'.pool.observer.plugin.traced = s.pool.observer.plugin.traced
  reported : s'.pool.observer.reported.reverse =
    s.pool.observer.reported.reverse ++ events (ns.map (i, ·))

variable {start : Observer} {s s' : Recorded ι σ} {ns : List Note}

theorem Adds.consistent (h : Adds i s s' ns) (hs : s.Consistent start) : s'.Consistent start := by
  refine ⟨?_, h.traced.trans hs.traced, ?_⟩
  · rw [h.settings, h.recording, inForce_append, hs.settings]
  · rw [h.reported, h.recording, events_append, hs.reported, List.append_assoc]

theorem adds_sample (i : ι) (q : Statement) (s : Recorded ι σ) :
    Adds i s (sample i q s).2 [.before q] :=
  ⟨rfl, rfl, rfl, (List.append_nil _).symm⟩

theorem adds_emit (i : ι) (e : Event) (s : Recorded ι σ) : Adds i s (s.emit i e) [.event e] :=
  ⟨rfl, rfl, rfl, List.reverse_cons⟩

theorem adds_nothing {observer : Observer} (hplugin : observer.plugin = s.pool.observer.plugin)
    (hreported : observer.reported = s.pool.observer.reported) :
    Adds i s (s.withObserver observer) [] :=
  ⟨(List.append_nil _).symm, congrArg _ hplugin, congrArg _ hplugin,
    (congrArg _ hreported).trans (List.append_nil _).symm⟩

theorem adds_readClock (i : ι) (s : Recorded ι σ) :
    Adds i s (readClock i s).2 [.clock s.pool.observer.now] :=
  ⟨rfl, rfl, rfl, (List.append_nil _).symm⟩

theorem adds_look (i : ι) (q : Statement) (failure : Option Error) (s : Recorded ι σ) :
    Adds i s (look i q failure s).2 [.after q failure] :=
  ⟨rfl, rfl, rfl, (List.append_nil _).symm⟩

end Recorded

open Recorded

variable [DecidableEq ι]

/-! ### What tasks promise each other -/

/-- A property of recordings that other tasks cannot end. -/
def Lasting (i : ι) (K : Recording ι → Prop) : Prop := ∀ l l', own i l' = [] → K l → K (l ++ l')

theorem lasting_own (ns : List Note) : Lasting i fun l => own i l = ns := by
  intro l l' hl' hl
  rw [own_append, hl, hl', List.append_nil]

theorem lasting_begun (sampled : Bool) (ns : List Note) :
    Lasting i (Begun first i q sampled ns) := by
  intro l l' hl' hl
  have h := hl.append l'
  rwa [hl', List.append_nil] at h

theorem lasting_ended (sampled : Bool) (ns : List Note) (failure : Option Error)
    (settings : Observability) (ms : List Note) :
    Lasting i (Ended first i q sampled ns failure settings ms) := by
  intro l l' hl' hl
  have h := hl.append l'
  rwa [hl', List.append_nil] at h

/-- The protocol of tasks of which each only makes notes that it is allowed to make. -/
def recorded (allowed : ι → Note → Prop) (start : Observer) : Protocol ι (Recorded ι σ) where
  inv := Consistent start
  may i s s' := ∃ ns : List Note,
    s'.recording = s.recording ++ ns.map (i, ·) ∧ ∀ n ∈ ns, allowed i n

variable {allowed : ι → Note → Prop} {start : Observer} {s : Recorded ι σ}
variable {K : Recording ι → Prop}

theorem Lasting.stable (hK : Lasting i K) :
    (recorded allowed start).Stable i fun s : Recorded ι σ => K s.recording := by
  intro j s s' hj ⟨ns, hrecording, _⟩ hs
  rw [hrecording]
  exact hK _ _ (own_others i hj ns) hs

/-- A piece keeps the protocol if the notes that it adds are allowed. -/
theorem keeps_piece {work : StateM (Recorded ι σ) β} (post : β → Recording ι → Prop)
    (hK : Lasting i K) (hpost : ∀ b, Lasting i (post b)) (hs : K s.recording)
    (h : ∀ s', Consistent start s' → K s'.recording → ∃ ns, Adds i s' (work s').2 ns ∧
      (∀ n ∈ ns, allowed i n) ∧ post (work s').1 (s'.recording ++ ns.map (i, ·))) :
    (recorded allowed start).Keeps i (fun b s => post b s.recording) (.atomic work) s := by
  refine .atomic (fun b s => post b s.recording) hK.stable (fun b => (hpost b).stable) hs
    fun s' hinv hs' => ?_
  obtain ⟨ns, hadds, hallowed, hnext⟩ := h s' hinv hs'
  refine ⟨hadds.consistent hinv, ⟨ns, hadds.recording, hallowed⟩, ?_⟩
  show post (work s').1 (work s').2.recording
  rw [hadds.recording]
  exact hnext

/-- Work on the connection adds no notes. -/
theorem keeps_onConnection (hK : Lasting i K) (work : Program (Option σ) α)
    (hs : K s.recording) :
    (recorded allowed start).Keeps i (fun _ s => K s.recording) work.onConnection s := by
  induction work generalizing s with
  | done a => exact .pure hK.stable hs
  | next ready piece rest ih =>
    intro s' ho hinv _
    have hs' : K s'.recording := hK.stable.others ho hs
    refine ⟨⟨hinv.settings, hinv.traced, hinv.reported⟩, ⟨[], ?_, List.forall_mem_nil _⟩, ih _ hs'⟩
    exact (List.append_nil _).symm

/-! ### Statements -/

/-- What a statement may note: its own start and end, the clock, and events. -/
def StatementNote (q : Statement) : Note → Prop
  | .before q' => q' = q
  | .after q' _ => q' = q
  | .clock _ | .event _ => True
  | .settings _ => False

/-- The start of a span, if there is a tracer. -/
def spanNotes (traced : Bool) (q : Statement) : List Note :=
  if traced then [.event (.spanStart ("db." ++ q.kind.name) q.table)] else []

/-- What has been done for a statement when it is open: if it is sampled, its span is open as well,
and the clock has been read. -/
def openingNotes (traced : Bool) (q : Statement) : Option Guard → List Note
  | none => []
  | some guard => spanNotes traced q ++ [.clock guard.started]

/-- A statement is open. -/
def Opened (start : Observer) (i : ι) (q : Statement) (guard : Option Guard)
    (l : Recording ι) : Prop :=
  Begun start.plugin.settings i q guard.isSome (openingNotes start.plugin.traced q guard) l ∧
    ∀ g ∈ guard, g.span = if start.plugin.traced then some ("db." ++ q.kind.name) else none

theorem lasting_opened (guard : Option Guard) : Lasting i (Opened start i q guard) :=
  fun l l' hl' hl => ⟨lasting_begun _ _ l l' hl' hl.1, hl.2⟩

theorem statementNote_of_mem_spanNotes {traced : Bool} {n : Note} (hn : n ∈ spanNotes traced q) :
    StatementNote q n := by
  cases traced with
  | false => cases hn
  | true =>
    rw [List.mem_singleton.mp hn]
    trivial

omit [DecidableEq ι] in
theorem adds_openSpan (hs : s.Consistent start) :
    Adds i s (openSpan i q s).2 (spanNotes start.plugin.traced q) ∧
      (openSpan i q s).1 = if start.plugin.traced then some ("db." ++ q.kind.name) else none := by
  rw [← hs.traced]
  unfold openSpan
  cases s.pool.observer.plugin.traced with
  | false => exact ⟨adds_nothing rfl rfl, rfl⟩
  | true => exact ⟨adds_emit i _ s, rfl⟩

section

variable (hallowed : ∀ n, StatementNote q n → allowed i n)
include hallowed

theorem Operation.keeps_opening {sampled : Bool}
    (hs : Begun start.plugin.settings i q sampled [] s.recording) :
    (recorded allowed start).Keeps i (fun guard s => Opened start i q guard s.recording)
      (Operation.opening i q sampled) s := by
  cases sampled with
  | false =>
    refine .bind (keeps_piece (fun _ => Begun start.plugin.settings i q false [])
      (lasting_begun false []) (fun _ => lasting_begun false []) hs fun s₁ _ hs₁ => ?_)
      fun _ s₁ hs₁ => ?_
    · exact ⟨[], adds_nothing rfl rfl, List.forall_mem_nil _, hs₁.append []⟩
    · exact .pure (lasting_opened none).stable ⟨hs₁, nofun⟩
  | true =>
    -- What the span is depends on the tracer alone, which never changes.
    have hspan : ∀ span : Option String, Lasting i fun l =>
        Begun start.plugin.settings i q true (spanNotes start.plugin.traced q) l ∧
          span = if start.plugin.traced then some ("db." ++ q.kind.name) else none :=
      fun span l l' hl' hl => ⟨lasting_begun _ _ l l' hl' hl.1, hl.2⟩
    refine .bind (keeps_piece _ (lasting_begun true []) hspan hs fun s₁ hinv hs₁ => ?_)
      fun span s₁ hs₁ => ?_
    · obtain ⟨hadds, hname⟩ := adds_openSpan (i := i) (q := q) hinv
      refine ⟨_, hadds, fun n hn => ?_, hs₁.notes _, hname⟩
      exact hallowed n (statementNote_of_mem_spanNotes hn)
    · refine .bind (keeps_piece (fun started => Opened start i q (some ⟨started, span⟩))
        (hspan span) (fun started => lasting_opened _) hs₁ fun s₂ _ hs₂ => ?_)
        fun started s₂ hs₂ => ?_
      · refine ⟨[.clock s₂.pool.observer.now], adds_readClock i s₂,
          List.forall_mem_singleton.mpr (hallowed _ trivial), hs₂.1.notes _, ?_⟩
        rintro g ⟨⟩
        exact hs₂.2
      · exact .pure (lasting_opened _).stable hs₂

theorem Operation.keeps_starting (hs : own i s.recording = []) :
    (recorded allowed start).Keeps i (fun guard s => Opened start i q guard s.recording)
      (Operation.starting i q) s := by
  refine .bind (keeps_piece (Begun start.plugin.settings i q · []) (lasting_own [])
    (fun sampled => lasting_begun sampled []) hs fun s₁ hinv hs₁ => ?_)
    fun sampled s₁ hs₁ => keeps_opening hallowed hs₁
  have hdecided : Decided (inForce start.plugin.settings s₁.recording).sampleRate
      (sample i q s₁).1 := by
    rw [sample_eq, ← hinv.settings]
    dsimp only
    exact decided_isSampled _ _
  exact ⟨[.before q], adds_sample i q s₁, List.forall_mem_singleton.mpr (hallowed _ rfl),
    .of_own_eq_nil hs₁ hdecided⟩

theorem Operation.keeps_emitAll {sampled : Bool} {ns ms : List Note} {failure : Option Error}
    {settings : Observability} (es : List Event)
    (hs : Ended first i q sampled ns failure settings ms s.recording) :
    (recorded allowed start).Keeps i
      (fun _ s => Ended first i q sampled ns failure settings (ms ++ es.map .event) s.recording)
      (Operation.emitAll i es) s := by
  induction es generalizing s ms with
  | nil =>
    refine .pure (lasting_ended _ _ _ _ _).stable ?_
    rwa [List.map_nil, List.append_nil]
  | cons e rest ih =>
    refine .bind (keeps_piece (fun _ => Ended first i q sampled ns failure settings
      (ms ++ [.event e])) (lasting_ended _ _ _ _ _) (fun _ => lasting_ended _ _ _ _ _) hs
      fun s₁ _ hs₁ => ⟨[.event e], adds_emit i e s₁,
        List.forall_mem_singleton.mpr (hallowed _ trivial), hs₁.notes _⟩)
      fun _ s₁ hs₁ => ?_
    have h := ih hs₁
    rwa [List.append_assoc] at h

end

/-- A statement that is over was observed. It was sampled or not as the rate at its start says. If
it was not, nothing is reported. If it was, its span was opened at its start, the clock was read
twice, and at its end the settings in force then say what the lines and the span report. -/
def Accounted (start : Observer) (i : ι) (q : Statement) (failure : Option Error)
    (l : Recording ι) : Prop :=
  (∃ settings, Ended start.plugin.settings i q false [] failure settings [] l) ∨
  ∃ t₀ t₁ settings, ∃ es : List Event, Ended start.plugin.settings i q true
      (spanNotes start.plugin.traced q ++ [.clock t₀, .clock t₁]) failure settings
      (es.map .event) l ∧
    es.filter Event.isLine = linesOn settings q (t₁ - t₀) failure ∧
    es.filter (fun e => !e.isLine) =
      if start.plugin.traced then spanEvents ("db." ++ q.kind.name) failure else []

theorem lasting_accounted (failure : Option Error) : Lasting i (Accounted start i q failure) := by
  intro l l' hl' hl
  rcases hl with ⟨settings, h⟩ | ⟨t₀, t₁, settings, es, h, hes⟩
  · exact .inl ⟨settings, lasting_ended _ _ _ _ _ l l' hl' h⟩
  · exact .inr ⟨t₀, t₁, settings, es, lasting_ended _ _ _ _ _ l l' hl' h, hes⟩

/-- The observer is called once at the start and once at the end. -/
theorem Accounted.calls {failure : Option Error} {l : Recording ι}
    (h : Accounted start i q failure l) :
    (own i l).filter Note.isCall = [.before q, .after q failure] := by
  have hevents : ∀ es : List Event, (es.map Note.event).filter Note.isCall = [] := by
    intro es
    rw [List.filter_eq_nil_iff]
    intro n hn
    obtain ⟨e, -, rfl⟩ := List.mem_map.mp hn
    exact Bool.false_ne_true
  rcases h with ⟨settings, h⟩ | ⟨t₀, t₁, settings, es, h, -⟩
  · rw [h.own_eq]
    rfl
  · rw [h.own_eq, spanNotes]
    cases start.plugin.traced with
    | false => exact congrArg (fun l => Note.before q :: Note.after q failure :: l) (hevents es)
    | true => exact congrArg (fun l => Note.before q :: Note.after q failure :: l) (hevents es)

section

variable (hallowed : ∀ n, StatementNote q n → allowed i n)
include hallowed

/-- The settings are looked at in the piece that notes the end. -/
theorem Operation.keeps_look {sampled : Bool} {ns : List Note} (failure : Option Error)
    (hs : Begun start.plugin.settings i q sampled ns s.recording) :
    (recorded allowed start).Keeps i (fun settings s =>
      Ended start.plugin.settings i q sampled ns failure settings [] s.recording)
      (.atomic (look i q failure)) s := by
  refine keeps_piece _ (lasting_begun _ _) (fun _ => lasting_ended _ _ _ _ _) hs
    fun s₁ hinv hs₁ => ⟨[.after q failure], adds_look i q failure s₁,
      List.forall_mem_singleton.mpr (hallowed _ rfl), ?_⟩
  have h := hs₁.ended failure
  rwa [← hinv.settings] at h

theorem Operation.keeps_finishing (failure : Option Error) {guard : Option Guard}
    (hs : Opened start i q guard s.recording) :
    (recorded allowed start).Keeps i (fun _ s => Accounted start i q failure s.recording)
      (Operation.finishing i q failure guard) s := by
  obtain ⟨hbegun, hspan⟩ := hs
  cases guard with
  | none =>
    refine .bind (keeps_piece (fun _ => Begun start.plugin.settings i q false [])
      (lasting_begun false []) (fun _ => lasting_begun false []) hbegun fun s₁ _ hs₁ =>
        ⟨[], adds_nothing rfl rfl, List.forall_mem_nil _, hs₁.append []⟩) fun _ s₁ hs₁ => ?_
    refine .bind (keeps_look hallowed failure hs₁) fun settings s₂ hs₂ => ?_
    exact .pure (lasting_accounted failure).stable (.inl ⟨settings, hs₂⟩)
  | some guard =>
    refine .bind (keeps_piece (fun now => Begun start.plugin.settings i q true
      (spanNotes start.plugin.traced q ++ [.clock guard.started] ++ [.clock now]))
      (lasting_begun true _) (fun _ => lasting_begun true _) hbegun fun s₁ _ hs₁ =>
        ⟨[.clock s₁.pool.observer.now], adds_readClock i s₁,
          List.forall_mem_singleton.mpr (hallowed _ trivial), hs₁.notes _⟩)
      fun now s₁ hs₁ => ?_
    refine .bind (keeps_look hallowed failure hs₁) fun settings s₂ hs₂ => ?_
    let es := Plugin.report settings q (now - guard.started) guard.span
      (failure.map Error.message)
    refine (keeps_emitAll hallowed es hs₂).mono fun _ s₃ hs₃ => .inr ⟨guard.started, now,
      settings, es, ?_, lines_report _ _ _ _ _, ?_⟩
    · rwa [List.append_assoc] at hs₃
    · rw [spans_report, hspan guard rfl]
      cases start.plugin.traced with
      | false => rfl
      | true => exact List.append_nil _

theorem Operation.keeps_observing (work : Program (Option σ) (Except Error α))
    (hs : own i s.recording = []) :
    (recorded allowed start).Keeps i (fun r s => Accounted start i q (failureOf r) s.recording)
      (Operation.observing i q work) s := by
  refine .bind (keeps_starting hallowed hs) fun guard s₁ hs₁ => ?_
  refine .bind (keeps_onConnection (lasting_opened guard) work hs₁) fun r s₂ hs₂ => ?_
  refine .bind (keeps_finishing hallowed (failureOf r) hs₂) fun _ s₃ hs₃ => ?_
  exact .pure (lasting_accounted _).stable hs₃

end

/-! ### Operations -/

/-- What an operation may note. -/
def Operation.MayNote : Operation σ α → Note → Prop
  | .statement q _, n => StatementNote q n
  | .apply o, n => n = .settings o ∧ o.validate = .ok ()
  | .control _, _ | .wait _, _ => False

/-- What is true of the answer of an operation when it is there, and stays true. -/
def Operation.Answers (start : Observer) (i : ι) : Operation σ α → α → Recorded ι σ → Prop
  | .statement q _, r, s => Accounted start i q (failureOf r) s.recording
  | .apply o, a, s => a = o.validate.mapError .config ∧
      own i s.recording = if a = .ok () then [.settings o] else []
  | .control _, _, s | .wait _, _, s => own i s.recording = []

theorem Operation.keeps_apply {o : Observability}
    (hallowed : o.validate = .ok () → allowed i (.settings o)) (hs : own i s.recording = []) :
    (recorded allowed start).Keeps i (Operation.Answers start i (Operation.apply o : Operation σ _))
      (.atomic (Recorded.apply i o)) s := by
  have hlasting : ∀ a : Except Error Unit, Lasting i fun l => a = o.validate.mapError Error.config ∧
      own i l = if a = .ok () then [.settings o] else [] :=
    fun a l l' hl' hl => ⟨hl.1, lasting_own (i := i) _ l l' hl' hl.2⟩
  refine keeps_piece _ (lasting_own []) hlasting hs fun s₁ _ hs₁ => ?_
  unfold Recorded.apply Observer.apply Plugin.apply
  cases hvalid : o.validate with
  | ok _ =>
    refine ⟨[.settings o], ⟨rfl, rfl, rfl, (List.append_nil _).symm⟩,
      List.forall_mem_singleton.mpr (hallowed hvalid), rfl, ?_⟩
    rw [own_append, hs₁, own_map_self]
    rfl
  | error e =>
    exact ⟨[], adds_nothing rfl rfl, List.forall_mem_nil _, rfl, lasting_own [] _ [] rfl hs₁⟩

/-- Every operation keeps the protocol. -/
theorem Operation.keeps_program (op : Operation σ α) (hallowed : ∀ n, op.MayNote n → allowed i n)
    (hs : own i s.recording = []) :
    (recorded allowed start).Keeps i (op.Answers start i) (op.program i) s := by
  cases op with
  | statement q work => exact keeps_observing hallowed work hs
  | control work => exact keeps_onConnection (lasting_own []) work hs
  | apply o => exact keeps_apply (fun hvalid => hallowed _ ⟨rfl, hvalid⟩) hs
  | wait t =>
    exact keeps_piece (fun _ l => own i l = []) (lasting_own []) (fun _ => lasting_own []) hs
      fun s₁ _ hs₁ => ⟨[], adds_nothing rfl rfl, List.forall_mem_nil _, lasting_own [] _ [] rfl hs₁⟩

/-! ### Runs -/

/-- An operation and the task that performs it. -/
structure Performed (ι σ α : Type) where
  task : ι
  operation : Operation σ α

/-- A pool on which tasks are about to perform some operations. -/
def System.ofOperations (p : Pooled σ) (ops : ι → Σ α : Type, Operation σ α) :
    System ι (Performed ι σ) (Recorded ι σ) :=
  { state := ⟨p, []⟩, tasks := fun i => ⟨⟨i, (ops i).2⟩, (ops i).2.program i⟩ }

theorem System.keeps_ofOperations (p : Pooled σ) (ops : ι → Σ α : Type, Operation σ α) :
    (System.ofOperations p ops).Keeps (recorded (fun i => (ops i).2.MayNote) p.observer)
      fun call => call.operation.Answers p.observer call.task :=
  ⟨⟨rfl, rfl, (List.append_nil _).symm⟩, fun i => (ops i).2.keeps_program (fun _ h => h) rfl⟩

/-- Tasks perform any operations on pools with one observer, and their pieces are interleaved in
any way. Every event and every change of settings is recorded, and only statements and accepted
settings leave notes. Every statement that is over, whether it failed or not, called the observer
once at its start and once at its end and is accounted for. Settings are replaced exactly if they
are accepted. -/
theorem observation_of_runs (p : Pooled σ) (ops : ι → Σ α : Type, Operation σ α)
    {c : System ι (Performed ι σ) (Recorded ι σ)} (hruns : (System.ofOperations p ops).Runs c) :
    c.state.Consistent p.observer ∧
    (∀ m ∈ c.state.recording, (ops m.1).2.MayNote m.2) ∧
    (∀ i α (q : Statement) (work : Program (Option σ) (Except Error α)) r,
      c.tasks i = ⟨⟨i, .statement q work⟩, .done r⟩ →
        (own i c.state.recording).filter Note.isCall = [.before q, .after q (failureOf r)] ∧
        Accounted p.observer i q (failureOf r) c.state.recording) ∧
    (∀ i o a, c.tasks i = ⟨⟨i, .apply o⟩, .done a⟩ → a = o.validate.mapError .config ∧
      own i c.state.recording = if a = .ok () then [.settings o] else []) := by
  have hstart := System.keeps_ofOperations p ops
  have hkeeps := hruns.keeps hstart
  refine ⟨hkeeps.inv, ?_, fun i α q work r htask => ?_, fun i o a htask => hkeeps.answer htask⟩
  swap
  · have haccounted : Accounted p.observer i q (failureOf r) c.state.recording :=
      hkeeps.answer htask
    exact ⟨haccounted.calls, haccounted⟩
  refine hruns.invariant (fun s => ∀ m ∈ s.recording, (ops m.1).2.MayNote m.2) ?_ hstart
    (List.forall_mem_nil _)
  rintro i s s' ⟨ns, hrecording, hallowed⟩ hs m hm
  rw [hrecording] at hm
  rcases List.mem_append.mp hm with hm | hm
  · exact hs m hm
  · obtain ⟨n, hn, rfl⟩ := List.mem_map.mp hm
    exact hallowed n hn

/-! ### Settings that change meanwhile -/

/-- A query that is given up. -/
def userQuery : Statement := ⟨.query, "users", "SELECT * FROM users", []⟩

/-- Three operations: a query that is given up, settings that are accepted, and others that are
not. -/
def threeOperations : Fin 3 → Σ α : Type, Operation Unit α
  | 0 => ⟨Except Error Nat, .statement userQuery (.atomic fun c => (.error .timeout, c))⟩
  | 1 => ⟨_, .apply { slowThreshold := .zero, logSql := true, sampleRate := .one }⟩
  | 2 => ⟨_, .apply { Observability.standard with sampleRate := .infinity false }⟩

/-- The query is sampled, statements are logged from then on, and the query goes on. -/
def changedMeanwhile : System (Fin 3) (Performed (Fin 3) Unit) (Recorded (Fin 3) Unit) :=
  (System.ofOperations ⟨some (), .ofPlugin ⟨.standard, true⟩, []⟩ threeOperations).turns
    [0, 1, 2, 0, 0, 0, 0, 0, 0, 0, 0, 0]

set_option maxRecDepth 10000 in
theorem observation_of_runs_changedMeanwhile :
    changedMeanwhile.state.Consistent (.ofPlugin ⟨.standard, true⟩) ∧
    Accounted (.ofPlugin ⟨.standard, true⟩) 0 userQuery (some .timeout)
      changedMeanwhile.state.recording ∧
    own 2 changedMeanwhile.state.recording = [] ∧
    events changedMeanwhile.state.recording =
      [.spanStart "db.query" "users",
        .line .error "query failed" [("table", "users"), ("operation", "query"),
          ("duration_ms", "0"), ("sql", "SELECT * FROM users"), ("error", Error.timeout.message)],
        .spanError "db.query" Error.timeout.message,
        .line .debug "query executed" [("table", "users"), ("operation", "query"),
          ("duration_ms", "0"), ("sql", "SELECT * FROM users")],
        .spanEnd "db.query"] := by
  obtain ⟨hconsistent, -, hstatement, happly⟩ :=
    observation_of_runs ⟨some (), .ofPlugin ⟨.standard, true⟩, []⟩ threeOperations
      (System.runs_turns _ [0, 1, 2, 0, 0, 0, 0, 0, 0, 0, 0, 0])
  exact ⟨hconsistent, (hstatement 0 _ userQuery _ (.error .timeout) rfl).2, (happly 2 _ _ rfl).2,
    by decide +kernel⟩

end DataAccess.Access
