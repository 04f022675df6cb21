import GuardAgent.Encryption
import GuardAgent.Foundation.Machine

/-!
# The install identifier

Any number of processes resolve the identifier over one file, each action of one a call to the
file system, and any of them may be killed. Two that start at once may write through each other.
But after one that ran to its end undisturbed the file never changes again, and every later one
has the same identifier, unless it is given another or cannot read the file
(`Resolution.install_id_settles`).
-/

namespace GuardAgent

open Foundation

/-- `str::from_utf8`. -/
def fromUtf8 (bytes : Bytes) : Option String := String.fromUTF8? ⟨bytes.toArray⟩

/-- A text reads back from its bytes. -/
theorem fromUtf8_utf8 (text : String) : fromUtf8 (utf8 text) = some text :=
  dif_pos text.isValidUTF8

/-- The text without the whitespace around it, unless it is blank. -/
def nonblank (text : String) : Option String :=
  if (trim text).isEmpty then none else some (trim text)

/-- Where a process has its identifier from. -/
inductive Origin where
  | overridden
  | cached
  /-- The file could not be read. -/
  | unreadable
  | persisted
  /-- The file could not be written. -/
  | unpersisted
  deriving DecidableEq

/-- `resolve_install_id_from`. -/
inductive Resolution where
  | start (overrideId : Option String)
  | opening
  | reading (soFar : Bytes)
  | creatingDir (fresh : String)
  | truncating (fresh : String)
  /-- In `write_all`, of which this much is written. -/
  | writing (fresh : String) (offset : ℕ)
  | returned (origin : Origin) (id : String)
  | killed
  deriving DecidableEq

/-- How a call to the file system ends, with the UUID that is drawn after it. -/
structure IoChoice where
  uuid : String
  killed : Bool
  /-- An error, which is not that the file is missing. -/
  fails : Bool
  /-- How many bytes are transferred beyond one. -/
  more : ℕ

/-- Nothing fails, and the UUID that is drawn is not blank. -/
structure IoChoice.Calm (choice : IoChoice) : Prop where
  alive : choice.killed = false
  works : choice.fails = false
  drawn : nonblank choice.uuid = some choice.uuid

/-- `pwrite`; a gap before the offset is filled with zeros. -/
def writeAt (content : Bytes) (offset : ℕ) (written : Bytes) : Bytes :=
  (content.take offset).rightpad offset 0 ++ written ++ content.drop (offset + written.length)

/-- Writing the next part of a content at the end of its beginning gives a longer beginning. -/
theorem writeAt_take {content written : Bytes} {offset : ℕ} (within : offset ≤ content.length)
    (part : written <+: content.drop offset) :
    writeAt (content.take offset) offset written = content.take (offset + written.length) := by
  have size : (content.take offset).length = offset := List.length_take_of_le within
  have after : (content.take offset).drop (offset + written.length) = [] :=
    List.drop_eq_nil_of_le (size.le.trans (Nat.le_add_right _ _))
  rw [writeAt, after, List.append_nil, List.take_take, min_self, List.rightpad, size, Nat.sub_self,
    List.replicate_zero, List.append_nil, List.take_add, ← List.prefix_iff_eq_take.mp part]

namespace Resolution

/-- The next action of a process, with the file it leaves. -/
def act? (phase : Resolution) (choice : IoChoice) (file : Option Bytes) :
    Option (Option Bytes × Resolution × List Resolution) :=
  let next : Option (Option Bytes × Resolution) := match phase with
    | start overrideId => match overrideId.bind nonblank with
        | some id => some (file, returned .overridden id)
        | none => some (file, opening)
    | opening =>
        if choice.fails then some (file, returned .unreadable choice.uuid)
        else match file with
          | none => some (file, creatingDir choice.uuid)
          | some _ => some (file, reading [])
    | reading soFar =>
        if choice.fails then some (file, returned .unreadable choice.uuid)
        else match (file.getD []).drop soFar.length with
          | [] => match fromUtf8 soFar with
              | none => some (file, returned .unreadable choice.uuid)
              | some text => match nonblank text with
                  | some id => some (file, returned .cached id)
                  | none => some (file, creatingDir choice.uuid)
          | first :: rest => some (file, reading (soFar ++ first :: rest.take choice.more))
    | creatingDir fresh =>
        if choice.fails then some (file, returned .unpersisted fresh)
        else some (file, truncating fresh)
    | truncating fresh =>
        if choice.fails then some (file, returned .unpersisted fresh)
        else some (some [], writing fresh 0)
    | writing fresh offset => match (utf8 fresh).drop offset with
        | [] => some (file, returned .persisted fresh)
        | first :: rest =>
            if choice.fails then some (file, returned .unpersisted fresh)
            else
              let written := first :: rest.take choice.more
              some (file.map fun content => writeAt content offset written,
                writing fresh (offset + written.length))
    | returned _ _ | killed => none
  next.map fun (file, phase) =>
    if choice.killed then (file, killed, []) else (file, phase, [])

/-- The identifier that a process is about to persist. -/
def fresh? : Resolution → Option String
  | creatingDir fresh | truncating fresh | writing fresh _ => some fresh
  | _ => none

/-- What a call to the file system can do, and where the process goes on. -/
inductive Acts (choice : IoChoice) (file : Option Bytes) :
    Resolution → Option Bytes → Resolution → Prop where
  | override {overrideId : Option String} {id : String} : overrideId.bind nonblank = some id →
      Acts choice file (.start overrideId) file (.returned .overridden id)
  | look {overrideId : Option String} : overrideId.bind nonblank = none →
      Acts choice file (.start overrideId) file .opening
  | unopened : choice.fails = true →
      Acts choice file .opening file (.returned .unreadable choice.uuid)
  | missing : choice.fails = false → file = none →
      Acts choice file .opening file (.creatingDir choice.uuid)
  | opened {content : Bytes} : file = some content → Acts choice file .opening file (.reading [])
  | unread {soFar : Bytes} : choice.fails = true →
      Acts choice file (.reading soFar) file (.returned .unreadable choice.uuid)
  | read {soFar part : Bytes} : part <+: (file.getD []).drop soFar.length →
      Acts choice file (.reading soFar) file (.reading (soFar ++ part))
  | garbled {soFar : Bytes} : (file.getD []).drop soFar.length = [] → fromUtf8 soFar = none →
      Acts choice file (.reading soFar) file (.returned .unreadable choice.uuid)
  | hit {soFar : Bytes} {text id : String} : (file.getD []).drop soFar.length = [] →
      fromUtf8 soFar = some text → nonblank text = some id →
      Acts choice file (.reading soFar) file (.returned .cached id)
  | blank {soFar : Bytes} {text : String} : (file.getD []).drop soFar.length = [] →
      fromUtf8 soFar = some text → nonblank text = none →
      Acts choice file (.reading soFar) file (.creatingDir choice.uuid)
  | create {fresh : String} : choice.fails = false →
      Acts choice file (.creatingDir fresh) file (.truncating fresh)
  | truncate {fresh : String} : choice.fails = false →
      Acts choice file (.truncating fresh) (some []) (.writing fresh 0)
  | write {fresh : String} {offset : ℕ} {written : Bytes} :
      written <+: (utf8 fresh).drop offset →
      Acts choice file (.writing fresh offset) (file.map fun content =>
        writeAt content offset written) (.writing fresh (offset + written.length))
  | finish {fresh : String} {offset : ℕ} : (utf8 fresh).drop offset = [] →
      Acts choice file (.writing fresh offset) file (.returned .persisted fresh)
  | giveUp {phase : Resolution} {fresh : String} : choice.fails = true →
      phase.fresh? = some fresh → Acts choice file phase file (.returned .unpersisted fresh)

/-- Every action of a resolution is one of these, or is killed. -/
theorem act?_acts {phase after : Resolution} {choice : IoChoice} {file file' : Option Bytes}
    {started : List Resolution} (acted : phase.act? choice file = some (file', after, started)) :
    started = [] ∧ ∃ next, phase.Acts choice file file' next ∧
      after = if choice.killed then .killed else next := by
  obtain ⟨⟨kept, next⟩, moved, stopped⟩ := Option.map_eq_some_iff.mp acted
  have ends : file' = kept ∧ started = [] ∧ after = if choice.killed then .killed else next := by
    dsimp only at stopped
    split at stopped
    · next dead =>
        cases stopped
        exact ⟨rfl, rfl, (if_pos dead).symm⟩
    · next alive =>
        cases stopped
        exact ⟨rfl, rfl, (if_neg alive).symm⟩
  obtain ⟨rfl, rfl, rfl⟩ := ends
  refine ⟨rfl, next, ?_, rfl⟩
  clear stopped acted
  cases phase with
  | start overrideId =>
      dsimp only at moved
      split at moved
      · next id given =>
          cases moved
          exact .override given
      · next unset =>
          cases moved
          exact .look unset
  | opening =>
      dsimp only at moved
      split at moved
      · next fails =>
          cases moved
          exact .unopened fails
      · next works =>
          cases file with
          | none =>
              cases moved
              exact .missing (Bool.eq_false_of_not_eq_true works) rfl
          | some content =>
              cases moved
              exact .opened rfl
  | reading soFar =>
      dsimp only at moved
      split at moved
      · next fails =>
          cases moved
          exact .unread fails
      · split at moved
        · next ends =>
            split at moved
            · next garbled =>
                cases moved
                exact .garbled ends garbled
            · next text decoded =>
                split at moved
                · next id held =>
                    cases moved
                    exact .hit ends decoded held
                · next blank =>
                    cases moved
                    exact .blank ends decoded blank
        · next first rest there =>
            cases moved
            refine .read ?_
            rw [there]
            exact List.cons_prefix_cons.mpr ⟨rfl, List.take_prefix _ _⟩
  | creatingDir fresh =>
      dsimp only at moved
      split at moved
      · next fails =>
          cases moved
          exact .giveUp fails rfl
      · next works =>
          cases moved
          exact .create (Bool.eq_false_of_not_eq_true works)
  | truncating fresh =>
      dsimp only at moved
      split at moved
      · next fails =>
          cases moved
          exact .giveUp fails rfl
      · next works =>
          cases moved
          exact .truncate (Bool.eq_false_of_not_eq_true works)
  | writing fresh offset =>
      dsimp only at moved
      split at moved
      · next done =>
          cases moved
          exact .finish done
      · next first rest left =>
          split at moved
          · next fails =>
              cases moved
              exact .giveUp fails rfl
          · cases moved
            refine .write ?_
            rw [left]
            exact List.cons_prefix_cons.mpr ⟨rfl, List.take_prefix _ _⟩
  | returned origin id => cases moved
  | killed => cases moved

/-- The process leaves a file of this content as it is, if all others do. -/
def Keeps (content : Bytes) : Resolution → Prop
  | start _ | opening | returned _ _ | killed => True
  | reading soFar => soFar <+: content
  | creatingDir _ | truncating _ | writing _ _ => False

/-- Bytes that hold an identifier. -/
def Holds (content : Bytes) (id : String) : Prop :=
  (fromUtf8 content).bind nonblank = some id

/-- What a process that began when the file held the identifier can return. -/
def Agrees (id : String) : Resolution → Prop
  | returned origin found =>
      origin = .overridden ∨ origin = .unreadable ∨ origin = .cached ∧ found = id
  | _ => True

/-- What was read up to the end of a file is its content. -/
theorem eq_of_read {soFar content : Bytes} (before : soFar <+: content)
    (ends : content.drop soFar.length = []) : soFar = content :=
  before.eq_of_length_le (List.drop_eq_nil_iff.mp ends)

/-- An action keeps the file and what the process knows of it, and the agreement on the
identifier. -/
theorem Acts.keeps {phase after : Resolution} {choice : IoChoice} {content : Bytes} {id : String}
    {file : Option Bytes} (acts : phase.Acts choice (some content) file after)
    (holds : Holds content id) (keeps : phase.Keeps content) :
    file = some content ∧ after.Keeps content ∧ (phase.Agrees id → after.Agrees id) := by
  cases acts with
  | override given => exact ⟨rfl, trivial, fun _ => Or.inl rfl⟩
  | look unset => exact ⟨rfl, trivial, fun _ => trivial⟩
  | unopened fails => exact ⟨rfl, trivial, fun _ => Or.inr (Or.inl rfl)⟩
  | missing works none => cases none
  | opened there => exact ⟨rfl, List.nil_prefix, fun _ => trivial⟩
  | unread fails => exact ⟨rfl, trivial, fun _ => Or.inr (Or.inl rfl)⟩
  | read part =>
      obtain ⟨rest, rfl⟩ := keeps
      rw [Option.getD_some, List.drop_left] at part
      exact ⟨rfl, (List.prefix_append_right_inj _).mpr part, fun _ => trivial⟩
  | garbled ends garbled => exact ⟨rfl, trivial, fun _ => Or.inr (Or.inl rfl)⟩
  | hit ends decoded held =>
      obtain rfl := eq_of_read keeps ends
      rw [Holds, decoded, Option.bind_some, held] at holds
      exact ⟨rfl, trivial, fun _ => Or.inr (Or.inr ⟨rfl, Option.some.inj holds⟩)⟩
  | blank ends decoded blank =>
      obtain rfl := eq_of_read keeps ends
      rw [Holds, decoded, Option.bind_some, blank] at holds
      cases holds
  | create works => exact keeps.elim
  | truncate works => exact keeps.elim
  | write written => exact keeps.elim
  | finish done => exact keeps.elim
  | giveUp fails drawn => cases phase <;> first | exact keeps.elim | cases drawn

/-- The file is missing, or a text. -/
def Readable (file : Option Bytes) : Prop :=
  ∀ content ∈ file, ∃ text, fromUtf8 content = some text

/-- What holds of a process that no other one disturbs, and of the file. -/
def Alone (file : Option Bytes) : Resolution → Prop
  | start overrideId => overrideId.bind nonblank = none ∧ Readable file
  | opening => Readable file
  | reading soFar => Readable file ∧ ∃ content, file = some content ∧ soFar <+: content
  | creatingDir fresh | truncating fresh => nonblank fresh = some fresh
  | writing fresh offset => nonblank fresh = some fresh ∧ offset ≤ (utf8 fresh).length ∧
      file = some ((utf8 fresh).take offset)
  | returned _ id => ∃ content, file = some content ∧ Holds content id
  | killed => False

/-- With calm actions an undisturbed process goes on as it should. -/
theorem Acts.alone {phase after : Resolution} {choice : IoChoice} {file file' : Option Bytes}
    (acts : phase.Acts choice file file' after) (calm : choice.Calm) (alone : phase.Alone file) :
    after.Alone file' := by
  have works (fails : choice.fails = true) : False := Bool.false_ne_true (calm.works ▸ fails)
  cases acts with
  | override given => cases alone.1.symm.trans given
  | look unset => exact alone.2
  | unopened fails => exact (works fails).elim
  | missing works none => exact calm.drawn
  | opened there => exact ⟨alone, _, there, List.nil_prefix⟩
  | unread fails => exact (works fails).elim
  | read part =>
      obtain ⟨readable, _, rfl, rest, rfl⟩ := alone
      rw [Option.getD_some, List.drop_left] at part
      exact ⟨readable, _, rfl, (List.prefix_append_right_inj _).mpr part⟩
  | garbled ends garbled =>
      obtain ⟨readable, content, rfl, before⟩ := alone
      obtain rfl := eq_of_read before ends
      obtain ⟨text, decoded⟩ := readable _ rfl
      cases garbled.symm.trans decoded
  | hit ends decoded held =>
      obtain ⟨readable, content, rfl, before⟩ := alone
      obtain rfl := eq_of_read before ends
      exact ⟨_, rfl, by rw [Holds, decoded, Option.bind_some, held]⟩
  | blank ends decoded blank => exact calm.drawn
  | create works => exact alone
  | truncate works => exact ⟨alone, Nat.zero_le _, rfl⟩
  | write part =>
      obtain ⟨drawn, within, rfl⟩ := alone
      refine ⟨drawn, ?_, congrArg some (writeAt_take within part)⟩
      have fits := part.length_le
      rw [List.length_drop] at fits
      omega
  | finish done =>
      obtain ⟨drawn, within, rfl⟩ := alone
      rw [List.take_of_length_le (List.drop_eq_nil_iff.mp done)]
      exact ⟨_, rfl, by rw [Holds, fromUtf8_utf8, Option.bind_some, drawn]⟩
  | giveUp fails drawn => exact (works fails).elim

/-- The processes over the file at the path. -/
def threads : Threads (Option Bytes) Resolution (Option String) IoChoice where
  arrive? overrideId file := some (file, [.start overrideId])
  act? := act?

/-- The file holds an identifier and nobody is about to write it; the processes from this index on
began with that. -/
structure Settled (content : Bytes) (id : String) (known : ℕ)
    (pool : Pool (Option Bytes) Resolution) : Prop where
  file : pool.shared = some content
  keeps : ∀ task ∈ pool.tasks, task.Keeps content
  agrees : ∀ tid task, known ≤ tid → pool.tasks[tid]? = some task → task.Agrees id

/-- A step of any process keeps a settled file. -/
theorem Settled.step {content : Bytes} {id : String} {known : ℕ}
    {pool next : Pool (Option Bytes) Resolution} {label : PoolLabel (Option String) IoChoice}
    (settled : Settled content id known pool) (holds : Holds content id)
    (stepped : threads.machine.step? pool label = some next) : Settled content id known next := by
  rcases Threads.step_cases stepped with ⟨overrideId, shared, started, rfl, arrived, rfl⟩ |
    ⟨tid, choice, task, shared, after, started, rfl, present, acted, rfl⟩
  · cases arrived
    refine ⟨settled.file, fun task member => ?_, fun tid task later present => ?_⟩
    · rcases List.mem_append.mp member with old | new
      · exact settled.keeps task old
      · rw [List.mem_singleton.mp new]
        trivial
    · rw [List.getElem?_append] at present
      split at present
      · exact settled.agrees tid task later present
      · rw [List.mem_singleton.mp (List.mem_of_getElem? present)]
        trivial
  · obtain ⟨rfl, phase, acts, rfl⟩ := act?_acts acted
    rw [settled.file] at acts
    obtain ⟨kept, keeps, agrees⟩ := acts.keeps holds
      (settled.keeps task (List.mem_of_getElem? present))
    refine ⟨kept, fun other member => ?_, fun other found later there => ?_⟩
    · rcases Pool.mem_acted_cases member with rfl | old | new
      · split
        · trivial
        · exact keeps
      · exact settled.keeps other old
      · cases new
    · rcases Pool.getElem?_acted_cases there with ⟨rfl, rfl⟩ | ⟨-, old⟩ | new
      · split
        · trivial
        · exact agrees (settled.agrees other task later present)
      · exact settled.agrees other found later old
      · cases new

/-- One process acts alone, and nothing fails. -/
theorem alone_run {choices : List IoChoice} (calm : ∀ choice ∈ choices, choice.Calm)
    {file : Option Bytes} {others : List Resolution} {phase : Resolution} (alone : phase.Alone file)
    {later : Pool (Option Bytes) Resolution}
    (run : threads.machine.Run ⟨file, others ++ [phase]⟩
      (choices.map fun choice => .run others.length choice) later) :
    ∃ phase', later.tasks = others ++ [phase'] ∧ phase'.Alone later.shared := by
  induction choices generalizing file phase with
  | nil =>
      cases run
      exact ⟨phase, rfl, alone⟩
  | cons choice choices ih =>
      obtain ⟨first, rest⟩ := List.forall_mem_cons.mp calm
      cases run with
      | cons _ stepped run =>
          rcases Threads.step_cases stepped with ⟨overrideId, shared, started, other, -⟩ |
            ⟨tid, choice, task, shared, after, started, same, present, acted, rfl⟩
          · cases other
          · cases same
            rw [List.getElem?_concat_length] at present
            obtain rfl := Option.some.inj present
            obtain ⟨rfl, next, acts, rfl⟩ := act?_acts acted
            rw [first.alive, List.append_nil, List.set_append_right _ _ le_rfl, Nat.sub_self] at run
            exact ih rest (acts.alone first alone) run

/-- The process neither has the file open nor is about to write it. -/
def Idle : Resolution → Prop
  | reading _ | creatingDir _ | truncating _ | writing _ _ => False
  | _ => True

/-- A process without the file open keeps any content. -/
theorem Idle.keeps {phase : Resolution} (idle : phase.Idle) (content : Bytes) :
    phase.Keeps content := by
  cases phase <;> trivial

/-- **One undisturbed start settles the identifier.** Let one process resolve its identifier while
no other one acts or has the file open and nothing fails, over a file that is missing or is a
text. Then whatever any processes do from then on, the file stays as it is, and every process
that starts from then on returns the same identifier, or the override it was given, or a fresh
one if it cannot read the file. -/
theorem install_id_settles (before : Pool (Option Bytes) Resolution)
    (idle : ∀ task ∈ before.tasks, task.Idle) (readable : Readable before.shared)
    (overrideId : Option String) (unset : overrideId.bind nonblank = none)
    (choices : List IoChoice) (calm : ∀ choice ∈ choices, choice.Calm)
    (between : Pool (Option Bytes) Resolution)
    (first : threads.machine.Run before
      (.arrive overrideId :: choices.map fun choice => .run before.tasks.length choice) between)
    (origin : Origin) (id : String)
    (resolved : between.tasks[before.tasks.length]? = some (.returned origin id))
    (labels : List (PoolLabel (Option String) IoChoice)) (after : Pool (Option Bytes) Resolution)
    (run : threads.machine.Run between labels after) :
    (∃ content, between.shared = some content ∧ Holds content id) ∧
    after.shared = between.shared ∧
    ∀ tid origin' id', between.tasks.length ≤ tid →
      after.tasks[tid]? = some (.returned origin' id') →
      origin' = .overridden ∨ origin' = .unreadable ∨ origin' = .cached ∧ id' = id := by
  cases first with
  | cons _ began acted =>
      obtain rfl := Option.some.inj (began.symm.trans (Threads.step_of_arrive rfl))
      have starts : (start overrideId).Alone before.shared := ⟨unset, readable⟩
      obtain ⟨phase, tasks, alone⟩ := alone_run calm starts acted
      rw [tasks, List.getElem?_concat_length] at resolved
      obtain rfl := Option.some.inj resolved
      obtain ⟨content, there, holds⟩ := alone
      have settled : Settled content id between.tasks.length between := by
        refine ⟨there, fun task member => ?_, fun tid task later present => ?_⟩
        · rw [tasks] at member
          rcases List.mem_append.mp member with old | new
          · exact (idle task old).keeps content
          · rw [List.mem_singleton.mp new]
            trivial
        · rw [List.getElem?_eq_none later] at present
          cases present
      have kept := run.invariant (Settled content id between.tasks.length) settled
        fun _ _ _ settled _ stepped => settled.step holds stepped
      exact ⟨⟨content, there, holds⟩, kept.file.trans there.symm,
        fun tid origin' id' later present => kept.agrees tid _ later present⟩

/-- A first start writes the file in two parts; of two later ones, one is killed and one reads. -/
theorem install_id_settles_restart :
    let choice (uuid : String) (more : ℕ) : IoChoice := ⟨uuid, false, false, more⟩
    let choices := List.replicate 4 (choice "a1b2" 0) ++ [choice "a1b2" 1] ++
      List.replicate 2 (choice "a1b2" 9)
    let labels := [.arrive none, .arrive (some " "), .run 1 (choice "" 0), .run 2 (choice "" 0),
      .run 1 ⟨"", true, false, 0⟩] ++ List.replicate 3 (.run 2 (choice "c3d4" 9))
    ∃ between after, threads.machine.Run ⟨none, []⟩
        (.arrive none :: choices.map fun choice => .run 0 choice) between ∧
      threads.machine.Run between labels after ∧
      after.tasks = [.returned .persisted "a1b2", .killed, .returned .cached "a1b2"] ∧
      after.shared = between.shared := by
  intro choice choices labels
  have calm : ∀ choice ∈ choices, choice.Calm := by
    intro choice member
    have fine : choices.all (fun choice => decide (choice.killed = false ∧ choice.fails = false ∧
        nonblank choice.uuid = some choice.uuid)) = true := by decide +kernel
    obtain ⟨alive, works, drawn⟩ := of_decide_eq_true (List.all_eq_true.mp fine choice member)
    exact ⟨alive, works, drawn⟩
  let first : List (PoolLabel (Option String) IoChoice) :=
    .arrive none :: choices.map fun choice => .run 0 choice
  let check (between after : Pool (Option Bytes) Resolution) : Bool :=
    decide (between.tasks = [.returned .persisted "a1b2"] ∧
      after.tasks = [.returned .persisted "a1b2", .killed, .returned .cached "a1b2"])
  obtain ⟨between, before, later⟩ := @Machine.exists_run _ _ threads.machine ⟨none, []⟩ first
    (fun between => (threads.machine.run? between labels).any (check between)) (by decide +kernel)
  obtain ⟨after, run, checked⟩ := Machine.exists_run later
  obtain ⟨resolved, tasks⟩ := of_decide_eq_true checked
  refine ⟨between, after, before, run, tasks, ?_⟩
  have missing : Readable none := fun content held => by cases held
  exact (install_id_settles ⟨none, []⟩ (fun task member => by cases member) missing none rfl choices
    calm between before .persisted "a1b2" (by rw [resolved]; rfl) labels after run).2.1

/-- Of two first starts at once, each may keep the identifier it drew. -/
example :
    let choice (uuid : String) : IoChoice := ⟨uuid, false, false, 9⟩
    (threads.machine.run? ⟨none, []⟩ ([.arrive none, .arrive none, .run 0 (choice "a1b2"),
      .run 1 (choice "c3d4"), .run 0 (choice "a1b2"), .run 1 (choice "c3d4")] ++
      List.replicate 4 (.run 0 (choice "a1b2")) ++ List.replicate 4 (.run 1 (choice "c3d4")))).any
      (fun pool => pool.tasks = [.returned .persisted "a1b2", .returned .persisted "c3d4"]) =
        true := by
  decide +kernel

end Resolution

end GuardAgent
