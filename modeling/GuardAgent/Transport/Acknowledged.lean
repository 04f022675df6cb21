import GuardAgent.Transport.Delivery
import Mathlib.Data.List.Flatten
import Mathlib.Data.List.Pairwise

/-!
# What the server acknowledged of a batch

The outcome of `send_batch` is that of the part sent last. So it says how many items of the
batch were acknowledged exactly when all parts were answered alike
(`HttpTransport.sendBatch_counts`).
-/

namespace GuardAgent

open Foundation Program

variable {Item : Type} (crates : Crates)

/-- What was acknowledged of an exchange. -/
def Exchange.acknowledged (exchange : Exchange Item) : List Item :=
  if exchange.2.acknowledged crates then exchange.1.carried else []

/-- The items of the acknowledged requests of a trace, in order. -/
def acknowledged (trace : List (TransportEvent Item)) : List Item :=
  (exchanges trace).flatMap (Exchange.acknowledged crates)

/-- Of these items, those that were in a request the server acknowledged. -/
def delivered [DecidableEq Item] (trace : List (TransportEvent Item)) (items : List Item) :
    List Item :=
  items.filter fun item => (exchanges trace).any fun exchange =>
    exchange.2.acknowledged crates && decide (item ∈ exchange.1.carried)

/-- The replies that finished items of a batch were all acknowledgements, or none was. -/
def Uniform (trace : List (TransportEvent Item)) : Prop :=
  ∀ first ∈ exchanges trace, ∀ second ∈ exchanges trace,
    Exchange.disposed crates first ≠ [] → Exchange.disposed crates second ≠ [] →
    first.2.acknowledged crates = second.2.acknowledged crates

/-- The calls of `send_with_retry` in a trace report what was acknowledged. -/
def Reported (trace : List (TransportEvent Item)) : Prop :=
  acknowledged crates trace = (sends trace).flatMap Sent.delivered

variable {crates} {first second trace : List (TransportEvent Item)} {request : Request Item}

/-- Lists that are parts of others and make the same when joined are the same. -/
theorem eq_of_flatMap_eq {α β : Type*} {list : List α} {parts wholes : α → List β}
    (part : ∀ entry ∈ list, (parts entry).Sublist (wholes entry))
    (same : list.flatMap parts = list.flatMap wholes) :
    ∀ entry ∈ list, parts entry = wholes entry := by
  induction list with
  | nil => exact fun _ member => (List.not_mem_nil member).elim
  | cons head tail ih =>
      rw [List.flatMap_cons, List.flatMap_cons] at same
      have later := fun entry member => part entry (List.mem_cons_of_mem head member)
      have here := part head List.mem_cons_self
      have lengths := congrArg List.length same
      rw [List.length_append, List.length_append] at lengths
      have shorter := here.length_le
      have shorter' := (List.Sublist.flatMap_right tail later).length_le
      have head_eq := here.eq_of_length (by omega)
      rw [head_eq, List.append_cancel_left_eq] at same
      intro entry member
      rcases List.mem_cons.mp member with rfl | further
      · exact head_eq
      · exact ih later same entry further

/-- What two traces in a row acknowledge is what each of them acknowledges. -/
theorem acknowledged_append : acknowledged crates (first ++ second) =
    acknowledged crates first ++ acknowledged crates second := by
  rw [acknowledged, exchanges_append, List.flatMap_append]
  rfl

/-- An exchange acknowledges its items all or none. -/
theorem Exchange.acknowledged_eq (exchange : Exchange Item) :
    exchange.acknowledged crates =
      if exchange.2.acknowledged crates then Exchange.disposed crates exchange else [] := by
  unfold acknowledged disposed
  split
  · next acked => simp only [acked, true_or, ↓reduceIte]
  · rfl

/-- The classification of a reply says whether it was an acknowledgement. -/
theorem Exchange.acknowledged_of_classified (request : Request Item) (url : String)
    (reply : HttpReply) : Exchange.acknowledged crates (request, reply) =
      (⟨request.carried, (HttpTransport.classifyAttempt crates url reply).reply⟩ :
        Sent Item).delivered := by
  rw [HttpTransport.classifyAttempt_reply, acknowledged, Sent.delivered]
  by_cases acked : reply.acknowledged crates
  · simp only [acked, ↓reduceIte]
  · simp only [acked, Bool.false_eq_true, ↓reduceIte]
    split_ifs <;> first | rfl | contradiction

/-- What is acknowledged is disposed of. -/
theorem Exchange.acknowledged_sublist (exchange : Exchange Item) :
    (exchange.acknowledged crates).Sublist (Exchange.disposed crates exchange) := by
  rw [exchange.acknowledged_eq]
  split
  · exact List.Sublist.refl _
  · exact List.nil_sublist _

/-- What a trace acknowledges it disposes of, in the same order. -/
theorem acknowledged_sublist :
    (acknowledged crates trace).Sublist (disposed crates trace) :=
  List.Sublist.flatMap_right _ fun exchange _ => exchange.acknowledged_sublist

/-- What is acknowledged once is counted once. -/
theorem length_delivered [DecidableEq Item] {items : List Item} (distinct : items.Nodup)
    (part : (acknowledged crates trace).Sublist items) :
    (delivered crates trace items).length = (acknowledged crates trace).length := by
  apply List.Perm.length_eq
  apply (List.perm_ext_iff_of_nodup (distinct.filter _) (distinct.sublist part)).mpr
  intro item
  have carried : item ∈ acknowledged crates trace ↔ ∃ exchange ∈ exchanges trace,
      exchange.2.acknowledged crates = true ∧ item ∈ exchange.1.carried := by
    simp only [acknowledged, List.mem_flatMap, Exchange.acknowledged, List.mem_ite_nil_right]
  simp only [List.mem_filter, List.any_eq_true, Bool.and_eq_true, decide_eq_true_eq]
  rw [← carried]
  exact and_iff_right_of_imp fun member => part.subset member

/-- **Replies are uniform when all of what was finished was acknowledged, or nothing.** -/
theorem uniform_iff : Uniform crates trace ↔
    acknowledged crates trace = [] ∨ acknowledged crates trace = disposed crates trace := by
  constructor
  · intro uniform
    by_cases some : ∃ exchange ∈ exchanges trace, Exchange.acknowledged crates exchange ≠ []
    · right
      obtain ⟨exchange, member, nonempty⟩ := some
      rw [exchange.acknowledged_eq] at nonempty
      obtain ⟨acked, finished⟩ := ite_ne_right_iff.mp nonempty
      refine List.flatMap_congr fun other here => ?_
      rw [other.acknowledged_eq]
      by_cases idle : Exchange.disposed crates other = []
      · rw [idle, ite_self]
      · rw [← uniform exchange member other here finished idle, if_pos acked]
    · left
      refine List.flatMap_eq_nil_iff.mpr fun exchange member => ?_
      by_contra nonempty
      exact some ⟨exchange, member, nonempty⟩
  · intro alike one here other there finished finished'
    rcases alike with none | all
    · have silent (exchange : Exchange Item) (member : exchange ∈ exchanges trace)
          (finished : Exchange.disposed crates exchange ≠ []) :
          exchange.2.acknowledged crates = false := by
        have empty := List.flatMap_eq_nil_iff.mp none exchange member
        rw [exchange.acknowledged_eq] at empty
        by_contra acked
        rw [if_pos (Bool.eq_true_of_not_eq_false acked)] at empty
        exact finished empty
      rw [silent one here finished, silent other there finished']
    · have heard (exchange : Exchange Item) (member : exchange ∈ exchanges trace)
          (finished : Exchange.disposed crates exchange ≠ []) :
          exchange.2.acknowledged crates = true := by
        have same := eq_of_flatMap_eq (fun other _ => other.acknowledged_sublist) all
        have here := same exchange member
        rw [exchange.acknowledged_eq] at here
        by_contra silent
        rw [if_neg silent] at here
        exact finished here.symm
      rw [heard one here finished, heard other there finished']

namespace Reported

/-- Two traces in a row report what was acknowledged if each of them does. -/
theorem append (before : Reported crates first) (after : Reported crates second) :
    Reported crates (first ++ second) := by
  rw [Reported, acknowledged_append, before, after, sends_append, List.flatMap_append]

/-- Where nothing is requested and no call returns there is nothing to report. -/
theorem of_quiet (quiet : Quiet crates trace) : Reported crates trace := by
  rw [Reported, acknowledged, quiet.exchanges, quiet.sends]
  rfl

end Reported

/-- Every complete execution reports what was acknowledged. -/
def Tells (crates : Crates) {α : Type} (program : TransportProgram Item α) : Prop :=
  program.Ensures fun trace _ => Reported crates trace

namespace Tells

variable {α β : Type}

/-- A program that performs nothing tells nothing wrong. -/
theorem done (value : α) : Tells crates (Program.done value : TransportProgram Item α) :=
  ensures_done rfl

/-- A program that sends nothing has nothing to report. -/
theorem of_quiet {program : TransportProgram Item α}
    (quiet : program.Ensures fun trace _ => Quiet crates trace) : Tells crates program :=
  quiet.mono fun _ _ => .of_quiet

/-- Two programs in turn report what was acknowledged if each of them does. -/
theorem bind {program : TransportProgram Item α} {rest : α → TransportProgram Item β}
    (first : Tells crates program) (later : ∀ value, Tells crates (rest value)) :
    Tells crates (program >>= rest) := by
  refine ensures_bind first ?_
  intro before value reported
  refine Ensures.mono (later value) ?_
  exact fun _ _ => reported.append

end Tells

/-- At most the last request of a call finishes the batch. -/
theorem Called.uniform {items : List Item} {reply : Reply}
    (called : Called crates items trace reply) : Uniform crates trace := by
  have calls := called.calls
  unfold Uniform
  generalize exchanges trace = made at calls ⊢
  cases calls with
  | @cons group _ _ _ _ last _ _ rest =>
      cases rest
      rw [List.append_nil]
      intro first here second there finished finished'
      have symmetric : Std.Symm fun first second : Exchange Item =>
          Exchange.disposed crates first = [] ∨ Exchange.disposed crates second = [] :=
        ⟨fun _ _ => Or.symm⟩
      by_contra different
      have apart : first ≠ second := by
        rintro rfl
        exact different rfl
      have alone : group.Pairwise fun first second =>
          Exchange.disposed crates first = [] ∨ Exchange.disposed crates second = [] :=
        last.imp fun nothing => Or.inl nothing
      rcases alone.forall here there apart with none | none
      · exact finished none
      · exact finished' none

namespace HttpTransport

variable {transport : HttpTransport} {label : String} {body : Body Item} {render : Item → Value}

/-- An attempt has the items acknowledged that its result says. -/
theorem attempt_acknowledged : (transport.attempt crates label body).Ensures fun trace result =>
    acknowledged crates trace = (⟨body.carried, result.reply⟩ : Sent Item).delivered := by
  unfold attempt
  refine ensures_call fun _ => ensures_call fun reply => ?_
  have counted := @Exchange.acknowledged_of_classified _ crates
    (transport.request crates label body) (transport.request crates label body).url reply
  cases (reply : HttpReply) with
  | clientError message =>
      exact ensures_done ((List.flatMap_singleton ..).trans counted)
  | response status retryAfter body =>
      refine ensures_call fun _ => ensures_done ?_
      exact (List.flatMap_singleton ..).trans counted

/-- A call reports what was acknowledged; the induction is on the attempts it has left. -/
theorem retryLoop_acknowledged (attempt remaining : ℕ) :
    (transport.retryLoop crates label body attempt remaining).Ensures fun trace result =>
      acknowledged crates trace = (⟨body.carried, result.reply⟩ : Sent Item).delivered := by
  induction remaining generalizing attempt with
  | zero => exact ensures_done rfl
  | succ remaining ih =>
      unfold retryLoop
      refine ensures_call fun acquired => ?_
      cases (acquired : Bool) with
      | false => exact ensures_call fun _ => ensures_call fun _ => ih (attempt + 1)
      | true =>
          refine ensures_call fun admitted => ?_
          cases (admitted : Bool) with
          | false => exact ensures_pause rfl (ih (attempt + 1))
          | true =>
              refine ensures_bind attempt_acknowledged ?_
              intro before result counted
              have goes {later : List (TransportEvent Item)}
                  (quiet : acknowledged crates later = []) :
                  acknowledged crates (before ++ later) =
                    (⟨body.carried, result.reply⟩ : Sent Item).delivered := by
                rw [acknowledged_append, quiet, List.append_nil, counted]
              have retries {later : List (TransportEvent Item)}
                  (failed : result.reply = .failed) :
                  acknowledged crates (before ++ later) = acknowledged crates later := by
                rw [acknowledged_append, counted, failed]
                rfl
              cases result with
              | accepted => exact ensures_call fun _ => ensures_done (goes rfl)
              | partialFailure errors => exact ensures_call fun _ => ensures_done (goes rfl)
              | permanent statusCode detail => exact ensures_done (goes rfl)
              | tooLarge detail => exact ensures_done (goes rfl)
              | rateLimited retryAfterSeconds =>
                  refine ensures_call fun _ => ensures_pause (goes rfl) ((ih (attempt + 1)).mono ?_)
                  intro later result counted'
                  exact (retries rfl).trans
                    (show acknowledged crates (_ :: _ :: later) = _ from counted')
              | retryable error =>
                  refine ensures_call fun _ => ensures_pause (goes rfl) ((ih (attempt + 1)).mono ?_)
                  intro later result counted'
                  exact (retries rfl).trans
                    (show acknowledged crates (_ :: _ :: later) = _ from counted')

/-- A call of `send_with_retry` has the items acknowledged that its result says. -/
theorem sendWithRetry_acknowledged : (transport.sendWithRetry crates label body).Ensures
    fun trace result =>
      acknowledged crates trace = (⟨body.carried, result.reply⟩ : Sent Item).delivered := by
  refine ensures_bind (retryLoop_acknowledged 0 transport.config.totalAttempts) ?_
  intro trace result counted
  refine ensures_call fun _ => ensures_done ?_
  rw [acknowledged_append, counted]
  exact List.append_nil _

/-- A call of `send_with_retry` reports what was acknowledged. -/
theorem sendWithRetry_tells : Tells crates (transport.sendWithRetry crates label body) := by
  intro trace result run
  obtain ⟨called, _⟩ := sendWithRetry_ensures trace result run
  rw [Reported, sendWithRetry_acknowledged trace result run, called.sends, List.flatMap_singleton]

/-- The plaintext path reports what was acknowledged. The induction is on the number of
items. -/
theorem sendBatch_tells (plaintext : transport.encryptor = none) (batch : BatchItems Item) :
    Tells crates (transport.sendBatch crates render batch) := by
  induction size : batch.items.length using Nat.strong_induction_on generalizing batch with
  | _ count ih =>
      unfold sendBatch
      simp only [plaintext]
      apply Tells.bind (Tells.of_quiet ((buildBatchBody_ensures batch).mono fun _ _ made => made.1))
      intro body
      apply Tells.bind sendWithRetry_tells
      intro result
      cases result with
      | ok outcome =>
          cases outcome with
          | accepted => exact Tells.done _
          | permanentDrop statusCode detail =>
              apply Tells.of_quiet
              exact (reportPermanent_ensures crates statusCode detail).mono fun _ _ made => made.1
          | failed error => exact Tells.done _
      | error tooLarge =>
          change Tells crates (splitOrDrop crates transport render batch tooLarge.detail)
          unfold splitOrDrop
          by_cases single : batch.items.length ≤ 1
          · rw [if_pos single]
            apply Tells.of_quiet
            exact (reportTooLarge_ensures crates tooLarge.detail).mono fun _ _ made => made.1
          · rw [if_neg single]
            have left : batch.split.1.items.length < count := by
              simp only [BatchItems.split, List.length_take]
              omega
            have right : batch.split.2.items.length < count := by
              simp only [BatchItems.split, List.length_drop]
              omega
            apply Tells.bind (ih _ left batch.split.1 rfl)
            intro leftOutcome
            by_cases confirmed : leftOutcome.isConfirmed
            · rw [if_pos confirmed]
              exact ih _ right batch.split.2 rfl
            · rw [if_neg confirmed]
              exact Tells.done _

/-- The encrypted path makes one call, of which the outcome tells. -/
theorem sendBatchEncrypted_acknowledged (encryptor : PayloadEncryptor) (batch : BatchItems Item) :
    (transport.sendBatchEncrypted crates render encryptor batch).Ensures fun trace outcome =>
      acknowledged crates trace = if outcome = .accepted then batch.items else [] := by
  unfold sendBatchEncrypted
  refine ensures_call fun nonce => ?_
  split
  · exact ensures_call fun _ => ensures_done rfl
  · refine ensures_call fun batchId => ensures_bind sendWithRetry_acknowledged ?_
    intro before result counted
    have goes {later : List (TransportEvent Item)} (quiet : acknowledged crates later = []) :
        acknowledged crates (before ++ later) =
          (⟨batch.items, result.reply⟩ : Sent Item).delivered := by
      rw [acknowledged_append, quiet, List.append_nil, counted]
    cases result with
    | ok outcome =>
        cases outcome with
        | accepted => exact ensures_done (goes rfl)
        | permanentDrop statusCode detail => exact ensures_call fun _ => ensures_done (goes rfl)
        | failed error => exact ensures_done (goes rfl)
    | error tooLarge => exact ensures_call fun _ => ensures_done (goes rfl)

/-- **What an outcome tells.** Counting an accepted batch whole and a dropped one not at all
counts what the server acknowledged exactly when its replies were uniform. -/
theorem sendBatch_counts [DecidableEq Item] (batch : BatchItems Item)
    (distinct : batch.items.Nodup) {outcome : SendOutcome}
    (run : (transport.sendBatch crates render batch).Run trace outcome)
    (confirmed : outcome.isConfirmed = true) :
    (if outcome = .accepted then batch.items.length else 0) =
      (delivered crates trace batch.items).length ↔ Uniform crates trace := by
  cases encrypted : transport.encryptor with
  | none =>
      obtain ⟨halving, calls, _⟩ := sendBatch_ensures encrypted batch trace outcome run
      have told := sendBatch_tells encrypted batch trace outcome run
      have finished : disposed crates trace = batch.items :=
        calls.flatMap_disposed.trans
          (halving.finished_of_confirmed (outcome.isConfirmed_iff.mp confirmed))
      have part := @acknowledged_sublist _ crates trace
      rw [finished] at part
      rw [length_delivered distinct part, uniform_iff, finished]
      by_cases nonempty : batch.items = []
      · have none : acknowledged crates trace = [] := by
          rw [nonempty] at part
          exact List.sublist_nil.mp part
        rw [none, nonempty]
        exact iff_of_true (ite_self _) (Or.inl rfl)
      cases outcome with
      | accepted =>
          have some := halving.delivered_of_accepted nonempty rfl
          rw [← told] at some
          rw [if_pos rfl, or_iff_right some]
          exact ⟨fun same => part.eq_of_length same.symm, fun same => (congrArg _ same).symm⟩
      | permanentDrop statusCode detail =>
          have fewer := halving.delivered_of_dropped nonempty rfl
          rw [← told] at fewer
          have missing : acknowledged crates trace ≠ batch.items := by
            intro same
            rw [same] at fewer
            exact Nat.lt_irrefl _ fewer
          rw [if_neg SendOutcome.noConfusion, or_iff_left missing, eq_comm,
            List.length_eq_zero_iff]
      | failed error => cases confirmed
  | some encryptor =>
      have same : transport.sendBatch crates render batch =
          transport.sendBatchEncrypted crates render encryptor batch := by
        unfold sendBatch
        simp only [encrypted]
      rw [same] at run
      have told := sendBatchEncrypted_acknowledged encryptor batch trace outcome run
      have part : (acknowledged crates trace).Sublist batch.items := by
        rw [told]
        split
        · exact List.Sublist.refl _
        · exact List.nil_sublist _
      rw [length_delivered distinct part, told, apply_ite List.length, List.length_nil]
      apply iff_of_true rfl
      rcases sendBatchEncrypted_ensures encryptor batch trace outcome run with
        quiet | ⟨reply, called, _⟩
      · intro first here
        rw [quiet.exchanges] at here
        exact (List.not_mem_nil here).elim
      · exact called.uniform

end HttpTransport

end GuardAgent
