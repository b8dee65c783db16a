import UncrownedKing.Lib.Run
import UncrownedKing.Relay.Upload

/-!
# Laws of the upload

What was accepted is what the target has been given, what the writer has in hand
and what is queued.
-/

namespace UncrownedKing.Relay

open Lib

variable {upload : Upload}

def TargetCommand.bytes : TargetCommand → Bytes
  | .data payload => payload
  | .close => []

def TargetLink.queued (link : TargetLink) : Bytes := link.queue.flatMap TargetCommand.bytes

def WriterStage.inHand : WriterStage → Bytes
  | .received command _ => command.bytes
  | .writing rest _ => rest
  | _ => []

def Upload.unwritten (upload : Upload) : Bytes := upload.writer.inHand ++ upload.link.queued

structure TargetLink.Closing (link link' : TargetLink) : Prop where
  closed : link.closed = true → link'.closed = true
  aborted : link.aborted = true → link'.aborted = true
  queue : link'.queue = link.queue ∨
    (link'.queue = link.queue ++ [.close] ∧ link'.closed = true)

namespace TargetLink

theorem Closing.queued (h : Closing link link') : link'.queued = link.queued := by
  rcases h.queue with hq | ⟨hq, -⟩ <;> simp [TargetLink.queued, hq, TargetCommand.bytes]

theorem Closing.refl (link : TargetLink) : Closing link link := ⟨id, id, .inl rfl⟩

theorem close_closing (link : TargetLink) : Closing link link.close :=
  ⟨fun _ => rfl, id, .inl rfl⟩

theorem abort_closing (link : TargetLink) : Closing link link.abort :=
  ⟨fun _ => rfl, fun _ => rfl, .inl rfl⟩

theorem trySend_ok (h : trySend capacity command link = .ok link') :
    link' = { link with queue := link.queue ++ [command] } := by
  unfold trySend at h
  split at h
  · cases h
  · split at h
    · cases h
    · cases h
      rfl

theorem closeQueue_closing (capacity : Nat) (link : TargetLink) :
    Closing link (link.closeQueue capacity) := by
  unfold closeQueue
  simp only
  split
  · split
    · rename_i link' h
      rw [trySend_ok h]
      exact ⟨fun _ => rfl, id, .inr ⟨rfl, rfl⟩⟩
    · exact ⟨fun _ => rfl, id, .inl rfl⟩
  · exact link.close_closing

theorem Closing.trans_abort (h : Closing link.abort link') : Closing link link' :=
  ⟨fun _ => h.closed rfl, fun _ => h.aborted rfl, h.queue⟩

theorem enqueueOpen_cases (capacity : Nat) (payload : Bytes) (reserved : Bool)
    (link : TargetLink) :
    (link.sender = true ∧ link.enqueueOpen capacity payload reserved =
        (.ok (), { link with queue := link.queue ++ [.data payload] })) ∨
      ∃ error link', link.enqueueOpen capacity payload reserved = (.error error, link') ∧
        Closing link link' := by
  unfold enqueueOpen
  split
  · exact .inr ⟨_, _, rfl, link.closeQueue_closing capacity⟩
  · split
    · exact .inr ⟨_, _, rfl, .refl link⟩
    · rename_i hsender
      cases h : link.trySend capacity (.data payload) with
      | ok link' => exact .inl ⟨by simpa using hsender, by rw [trySend_ok h]⟩
      | error error =>
        cases error with
        | closed => exact .inr ⟨_, _, rfl, .refl link⟩
        | full => exact .inr ⟨_, _, rfl, link.closeQueue_closing capacity⟩

end TargetLink

theorem TargetFlow.closeClientToTarget_closing (capacity : Nat) (flow : TargetFlow)
    (link : TargetLink) : link.Closing (flow.closeClientToTarget capacity link).2 := by
  unfold closeClientToTarget
  split
  · exact link.closeQueue_closing capacity
  · exact .refl link

theorem TargetFlow.abort_closing (capacity : Nat) (flow : TargetFlow) (link : TargetLink) :
    link.Closing (flow.abort capacity link).2 :=
  (link.abort.closeQueue_closing capacity).trans_abort

theorem TargetFlow.drop_closing (flow : TargetFlow) (link : TargetLink) :
    link.Closing (flow.drop link) := by
  unfold drop
  split
  · exact ⟨id, id, .inl rfl⟩
  · exact ⟨fun _ => rfl, fun _ => rfl, .inl rfl⟩

inductive Upload.Quietly (upload : Upload) : Upload → List UploadEvent → Prop
  | closing {upload' : Upload} (link : upload.link.Closing upload'.link)
      (writer : upload'.writer = upload.writer)
      (enqueuing : upload'.enqueuing = none ∨
        (upload'.enqueuing = upload.enqueuing ∧
          (upload'.link.closed = true → upload.link.closed = true ∨ upload'.link.aborted = true) ∧
          upload'.link.queue = upload.link.queue)) :
      upload.Quietly upload' []
  | checked (payload : Bytes) (opened : upload.link.closed = false) :
      upload.Quietly { upload with enqueuing := some payload } []
  | accepted (payload : Bytes) (enqueuing : upload.enqueuing = some payload)
      (sender : upload.link.sender = true) :
      upload.Quietly
        { upload with
          link := { upload.link with queue := upload.link.queue ++ [.data payload] }
          enqueuing := none } [.accepted payload]

theorem Upload.unlessEnqueuing_quietly (upload : Upload) (flow : TargetFlow) {link : TargetLink}
    (h : upload.link.Closing link) :
    upload.Quietly (upload.unlessEnqueuing flow link).1 (upload.unlessEnqueuing flow link).2 := by
  unfold unlessEnqueuing
  split
  · exact .closing (.refl _) rfl (.inr ⟨rfl, .inl, rfl⟩)
  · rename_i hnone
    exact .closing h rfl (.inl hnone)

theorem Upload.unlessEnqueuing_log (upload : Upload) (flow : TargetFlow) (link : TargetLink) :
    (upload.unlessEnqueuing flow link).2 = [] := by
  unfold unlessEnqueuing
  split <;> rfl

theorem Upload.step_quietly (capacity : Nat) (upload : Upload) (action : UploadAction)
    (haction : ∀ choice, action ≠ .writer choice) :
    upload.Quietly (upload.step capacity action).1 (upload.step capacity action).2 := by
  have hsame : upload.Quietly upload [] := .closing (.refl _) rfl (.inr ⟨rfl, .inl, rfl⟩)
  cases action with
  | checkOpen payload =>
    simp only [Upload.step]
    split
    · exact hsame
    · rename_i h
      exact .checked payload (by simp_all)
  | send reserved =>
    simp only [Upload.step]
    split
    · exact hsame
    · rename_i payload hpayload
      rcases TargetLink.enqueueOpen_cases capacity payload reserved upload.link with
        ⟨hsender, hsend⟩ | ⟨error, link, hsend, hlink⟩
      · rw [hsend]
        exact .accepted payload hpayload hsender
      · rw [hsend]
        exact .closing hlink rfl (.inl rfl)
  | closeClientToTarget =>
    exact upload.unlessEnqueuing_quietly _
      (upload.flow.closeClientToTarget_closing capacity upload.link)
  | markClientToTargetClosed => exact upload.unlessEnqueuing_quietly _ upload.link.close_closing
  | markTargetToClientClosed => exact upload.unlessEnqueuing_quietly _ (.refl _)
  | markTargetWriteClosed => exact upload.unlessEnqueuing_quietly _ upload.link.close_closing
  | abort => exact upload.unlessEnqueuing_quietly _ (upload.flow.abort_closing capacity upload.link)
  | dropFlow => exact upload.unlessEnqueuing_quietly _ (upload.flow.drop_closing upload.link)
  | abortControl =>
    exact .closing upload.link.abort_closing rfl (.inr ⟨rfl, fun _ => .inr rfl, rfl⟩)
  | closeSession => exact .closing (.refl _) rfl (.inr ⟨rfl, .inl, rfl⟩)
  | writer choice => exact absurd rfl (haction choice)

inductive WriterMove (link : TargetLink) : WriterStage → WriterStage → TargetLink →
    List UploadEvent → Prop
  | stay (stage : WriterStage) : WriterMove link stage stage link []
  | ended (stage : WriterStage) (failed : Bool) :
      WriterMove link stage (.ended failed) link.dropReceiver []
  | go {stage stage' : WriterStage} (runs : ∀ failed, stage ≠ .ended failed)
      (hand : stage.inHand = stage'.inHand)
      (fresh : stage' = .head ∨ stage' = .selecting ∨ stage' = .draining ∨
        ∃ payload draining, stage' = .writing payload draining) :
      WriterMove link stage stage' link []
  | take {stage : WriterStage} (command : TargetCommand) (draining : Bool)
      {queue : List TargetCommand} (runs : ∀ failed, stage ≠ .ended failed)
      (hand : stage.inHand = []) (queued : link.queue = command :: queue) :
      WriterMove link stage (.received command draining) { link with queue := queue } []
  | empty {stage : WriterStage} (runs : ∀ failed, stage ≠ .ended failed)
      (hand : stage.inHand = []) (queued : link.queue = []) :
      WriterMove link stage .drained link []
  | wrote (rest : Bytes) (draining : Bool) (n : Nat) :
      WriterMove link (.writing rest draining) (.writing (rest.drop n) draining) link
        [.wrote (rest.take n)]
  | close (draining : Bool) :
      WriterMove link (.received .close draining) .shuttingDown link.close []
  | closed (closed : link.closed = true) : WriterMove link .drained .closedSeen link []
  | unaborted (aborted : link.aborted = false) : WriterMove link .closedSeen .shuttingDown link []
  | shutdown (failed : Bool) :
      WriterMove link .shuttingDown (.ended failed) link.dropReceiver [.shutdown]

theorem writerStep_move (shutdown : Bool) (link : TargetLink) (stage : WriterStage)
    (choice : WriterChoice) :
    WriterMove link stage (writerStep shutdown link stage choice).1
      (writerStep shutdown link stage choice).2.1 (writerStep shutdown link stage choice).2.2 := by
  unfold writerStep
  split
  · split
    · exact .ended _ _
    · exact .go nofun rfl (.inr (.inl rfl))
  · split
    · exact .ended _ _
    · exact .stay _
  · split
    · exact .take _ _ nofun rfl ‹_›
    · split
      · exact .stay _
      · exact .empty nofun rfl ‹_›
  · split
    · exact .go nofun rfl (.inr (.inr (.inl rfl)))
    · exact .stay _
  · split
    · exact .take _ _ nofun rfl ‹_›
    · exact .empty nofun rfl ‹_›
  · split
    · exact .ended _ _
    · exact .go nofun rfl (.inr (.inr (.inr ⟨_, _, rfl⟩)))
  · exact .close _
  · unfold WriterStage.next
    split
    · exact .go nofun rfl (.inr (.inr (.inl rfl)))
    · exact .go nofun rfl (.inl rfl)
  · exact .wrote _ _ _
  · split
    · exact .ended _ _
    · exact .stay _
  · exact .ended _ _
  · split
    · exact .closed ‹_›
    · exact .ended _ _
  · split
    · exact .ended _ _
    · exact .unaborted (by simp_all)
  · exact .shutdown false
  · exact .shutdown true
  · exact .stay _

theorem acceptedUpload_append (log log' : List UploadEvent) :
    acceptedUpload (log ++ log') = acceptedUpload log ++ acceptedUpload log' :=
  List.flatMap_append

theorem writtenUpload_append (log log' : List UploadEvent) :
    writtenUpload (log ++ log') = writtenUpload log ++ writtenUpload log' :=
  List.flatMap_append

structure Upload.Conserved (log : List UploadEvent) (upload : Upload) : Prop where
  written_le : writtenUpload log <+: acceptedUpload log
  exact : (∀ failed, upload.writer ≠ .ended failed) →
    acceptedUpload log = writtenUpload log ++ upload.unwritten

theorem Upload.Conserved.quietly (h : upload.Conserved seen)
    (hstep : upload.Quietly upload' log) : upload'.Conserved (seen ++ log) := by
  cases hstep with
  | closing hlink hwriter _ =>
    rw [List.append_nil]
    refine ⟨h.written_le, fun hends => ?_⟩
    rw [h.exact (hwriter ▸ hends), unwritten, unwritten, hwriter, hlink.queued]
  | checked payload _ =>
    rw [List.append_nil]
    exact ⟨h.written_le, h.exact⟩
  | accepted payload _ _ =>
    have hwritten : writtenUpload (seen ++ [.accepted payload]) = writtenUpload seen := by
      simp [writtenUpload, UploadEvent.writtenBytes]
    have haccepted : acceptedUpload (seen ++ [.accepted payload]) =
        acceptedUpload seen ++ payload := by
      simp [acceptedUpload, UploadEvent.acceptedBytes]
    refine ⟨?_, fun hends => ?_⟩
    · rw [hwritten, haccepted]
      exact h.written_le.trans (List.prefix_append _ _)
    · rw [hwritten, haccepted, h.exact hends]
      simp [unwritten, TargetLink.queued, TargetCommand.bytes]

theorem WriterMove.moves (h : WriterMove link stage stage' link' log) :
    acceptedUpload log = [] ∧
      ((∃ failed, stage' = .ended failed ∧ writtenUpload log = []) ∨
        (∀ failed, stage ≠ .ended failed) ∧
          stage.inHand ++ link.queued = writtenUpload log ++ (stage'.inHand ++ link'.queued)) := by
  cases h with
  | stay _ =>
    refine ⟨rfl, ?_⟩
    by_cases hends : ∃ failed, stage = .ended failed
    · obtain ⟨failed, rfl⟩ := hends
      exact .inl ⟨failed, rfl, rfl⟩
    · exact .inr ⟨not_exists.mp hends, rfl⟩
  | ended _ failed => exact ⟨rfl, .inl ⟨failed, rfl, rfl⟩⟩
  | go runs hand _ => exact ⟨rfl, .inr ⟨runs, by rw [hand]; rfl⟩⟩
  | take command draining runs hand queued =>
    refine ⟨rfl, .inr ⟨runs, ?_⟩⟩
    rw [hand]
    simp [TargetLink.queued, queued, WriterStage.inHand, writtenUpload]
  | empty runs hand _ =>
    refine ⟨rfl, .inr ⟨runs, ?_⟩⟩
    rw [hand]
    rfl
  | wrote rest draining n =>
    refine ⟨rfl, .inr ⟨nofun, ?_⟩⟩
    simp [WriterStage.inHand, writtenUpload, UploadEvent.writtenBytes, ← List.append_assoc]
  | close draining | closed _ | unaborted _ => exact ⟨rfl, .inr ⟨nofun, rfl⟩⟩
  | shutdown failed => exact ⟨rfl, .inl ⟨failed, rfl, rfl⟩⟩

theorem Upload.Conserved.writes {link : TargetLink}
    (h : upload.Conserved seen) (hmove : WriterMove upload.link upload.writer stage link log) :
    ({ upload with writer := stage, link := link } : Upload).Conserved (seen ++ log) := by
  obtain ⟨haccepts, ⟨failed, rfl, hwrites⟩ | ⟨hruns, hmoves⟩⟩ := hmove.moves
  · refine ⟨?_, fun hruns => absurd rfl (hruns failed)⟩
    rw [acceptedUpload_append, writtenUpload_append, hwrites, haccepts, List.append_nil,
      List.append_nil]
    exact h.written_le
  · have hexact : acceptedUpload (seen ++ log) =
        writtenUpload (seen ++ log) ++ (stage.inHand ++ link.queued) := by
      rw [acceptedUpload_append, haccepts, List.append_nil, h.exact hruns, unwritten, hmoves,
        writtenUpload_append, List.append_assoc]
    exact ⟨hexact ▸ List.prefix_append _ _, fun _ => hexact⟩

theorem Upload.Conserved.step (h : upload.Conserved seen) (capacity : Nat) (action : UploadAction) :
    (upload.step capacity action).1.Conserved (seen ++ (upload.step capacity action).2) := by
  by_cases hwriter : ∃ choice, action = .writer choice
  · obtain ⟨choice, rfl⟩ := hwriter
    exact h.writes (writerStep_move upload.shutdown upload.link upload.writer choice)
  · exact h.quietly (upload.step_quietly capacity action (not_exists.mp hwriter))

theorem run_conserved (capacity : Nat) (flow : TargetFlow) (actions : List UploadAction) :
    let r := run (Upload.step capacity) (.start flow) actions
    r.1.Conserved r.2 :=
  run_invariant (fun (log : List UploadEvent) (upload : Upload) => upload.Conserved log)
    (fun _ _ action _ h => h.step capacity action) ⟨List.prefix_refl _, fun _ => rfl⟩
    (along_true _ actions)

def NoData (queue : List TargetCommand) : Prop := ∀ command ∈ queue, command = .close

def CloseLast : List TargetCommand → Prop
  | [] => True
  | .data _ :: rest => CloseLast rest
  | .close :: rest => NoData rest

structure Upload.Over (upload : Upload) : Prop where
  closed : upload.link.closed = true
  enqueuing : upload.enqueuing = none
  noData : NoData upload.link.queue

def Upload.StageHolds (upload : Upload) : Prop :=
  match upload.writer with
  | .received .close _ | .shuttingDown => upload.Over
  | .closedSeen => upload.link.aborted = true ∨ upload.Over
  | .drained => NoData upload.link.queue
  | _ => True

structure Upload.Orderly (upload : Upload) : Prop where
  closeLast : CloseLast upload.link.queue
  of_close : .close ∈ upload.link.queue → upload.link.closed = true ∧ upload.enqueuing = none
  of_enqueuing : upload.enqueuing ≠ none → upload.link.closed = true →
    upload.link.aborted = true
  stage : upload.StageHolds

/-- No payload is sent between the writer's finding the channel empty and its look at the flow. -/
def Upload.SendsInTime (upload : Upload) : UploadAction → Prop
  | .send _ => upload.link.sender = true → upload.writer ≠ .drained
  | _ => True

instance (upload : Upload) (action : UploadAction) : Decidable (upload.SendsInTime action) :=
  match action with
  | .send _ => inferInstanceAs (Decidable (_ → _))
  | .checkOpen _ | .closeClientToTarget | .markClientToTargetClosed | .markTargetToClientClosed
  | .markTargetWriteClosed | .abort | .dropFlow | .abortControl | .closeSession | .writer _ =>
    .isTrue trivial

theorem CloseLast.append_close (h : CloseLast queue) : CloseLast (queue ++ [.close]) := by
  induction queue with
  | nil => simp [CloseLast, NoData]
  | cons command rest ih =>
    cases command with
    | data payload => exact ih h
    | close =>
      intro command hmem
      rcases List.mem_append.mp hmem with hmem | hmem
      · exact h command hmem
      · simpa using hmem

theorem CloseLast.append_data (h : .close ∉ queue) : CloseLast (queue ++ [.data payload]) := by
  induction queue with
  | nil => trivial
  | cons command rest ih =>
    cases command with
    | data payload => exact ih fun hmem => h (List.mem_cons_of_mem _ hmem)
    | close => exact absurd (List.mem_cons_self ..) h

theorem NoData.closing (h : NoData link.queue) (hlink : TargetLink.Closing link link') :
    NoData link'.queue := by
  rcases hlink.queue with hq | ⟨hq, -⟩
  · rwa [hq]
  · rw [hq]
    intro command hmem
    rcases List.mem_append.mp hmem with hmem | hmem
    · exact h command hmem
    · simpa using hmem

theorem Upload.StageHolds.mono {upload upload' : Upload} (h : upload.StageHolds)
    (hwriter : upload'.writer = upload.writer)
    (hover : upload.Over → upload'.Over)
    (haborted : upload.link.aborted = true → upload'.link.aborted = true)
    (hdrained : upload.writer = .drained → NoData upload.link.queue → NoData upload'.link.queue) :
    upload'.StageHolds := by
  unfold StageHolds at h ⊢
  rw [hwriter]
  split at h
  · exact hover h
  · exact hover h
  · exact h.imp haborted hover
  · exact hdrained ‹_› h
  · trivial

theorem Upload.Orderly.quietly (h : upload.Orderly) (hstep : upload.Quietly upload' log)
    (htime : upload.enqueuing ≠ none → log ≠ [] → upload.link.sender = true →
      upload.writer ≠ .drained) : upload'.Orderly := by
  cases hstep with
  | closing hlink hwriter henqueuing =>
    have hnone : upload.enqueuing = none → upload'.enqueuing = none := by
      intro hnone
      rcases henqueuing with hnow | ⟨hnow, -⟩
      · exact hnow
      · rw [hnow, hnone]
    refine ⟨?_, ?_, ?_, h.stage.mono hwriter ?_ hlink.aborted fun _ hdata => hdata.closing hlink⟩
    · rcases hlink.queue with hq | ⟨hq, -⟩
      · rw [hq]
        exact h.closeLast
      · rw [hq]
        exact h.closeLast.append_close
    · intro hmem
      rcases henqueuing with hnow | ⟨hnow, -, hq⟩
      · refine ⟨?_, hnow⟩
        rcases hlink.queue with hq | ⟨-, hclosed⟩
        · exact hlink.closed (h.of_close (hq ▸ hmem)).1
        · exact hclosed
      · obtain ⟨hclosed, hnone⟩ := h.of_close (hq ▸ hmem)
        exact ⟨hlink.closed hclosed, hnow.trans hnone⟩
    · intro hsome hclosed
      rcases henqueuing with hnow | ⟨hnow, hcause, -⟩
      · exact absurd hnow hsome
      · rcases hcause hclosed with hclosed | haborted
        · exact hlink.aborted (h.of_enqueuing (hnow ▸ hsome) hclosed)
        · exact haborted
    · exact fun hover =>
        ⟨hlink.closed hover.closed, hnone hover.enqueuing, hover.noData.closing hlink⟩
  | checked payload hopen =>
    have hopened {P : Prop} (hclosed : upload.link.closed = true) : P := by
      rw [hopen] at hclosed
      cases hclosed
    exact ⟨h.closeLast, fun hmem => hopened (h.of_close hmem).1, fun _ => hopened,
      h.stage.mono rfl (fun hover => hopened hover.closed) id fun _ => id⟩
  | accepted payload henqueuing hsender =>
    have hnoClose : .close ∉ upload.link.queue := by
      intro hmem
      have := (h.of_close hmem).2
      simp [henqueuing] at this
    refine ⟨.append_data hnoClose, fun hmem => ?_, fun hsome => absurd rfl hsome,
      h.stage.mono rfl (fun hover => ?_) id fun hwriter => ?_⟩
    · rcases List.mem_append.mp hmem with hmem | hmem
      · exact absurd hmem hnoClose
      · simp at hmem
    · have := hover.enqueuing
      simp [henqueuing] at this
    · exact absurd hwriter (htime (by simp [henqueuing]) (by simp) hsender)

theorem NoData.closeLast (h : NoData queue) : CloseLast queue := by
  induction queue with
  | nil => trivial
  | cons command rest ih =>
    cases command with
    | data payload => exact nomatch h _ (List.mem_cons_self ..)
    | close => exact fun command hmem => h command (List.mem_cons_of_mem _ hmem)

theorem CloseLast.tail (h : CloseLast (command :: rest)) : CloseLast rest := by
  cases command with
  | data payload => exact h
  | close => exact NoData.closeLast h

theorem Upload.Orderly.writes {stage : WriterStage} {link : TargetLink}
    (h : upload.Orderly) (hmove : WriterMove upload.link upload.writer stage link log) :
    ({ upload with writer := stage, link := link } : Upload).Orderly := by
  obtain ⟨flow, old, shutdown, enqueuing, writer⟩ := upload
  cases hmove with
  | stay _ => exact h
  | ended _ failed => exact ⟨trivial, nofun, h.of_enqueuing, trivial⟩
  | go runs hand fresh =>
    refine ⟨h.closeLast, h.of_close, h.of_enqueuing, ?_⟩
    rcases fresh with rfl | rfl | rfl | ⟨payload, draining, rfl⟩ <;> trivial
  | take command draining runs hand queued =>
    have hqueue : CloseLast (command :: _) := queued ▸ h.closeLast
    have hclose (hmem : .close ∈ command :: _) := h.of_close (queued ▸ hmem)
    refine ⟨hqueue.tail, fun hmem => hclose (List.mem_cons_of_mem _ hmem), h.of_enqueuing, ?_⟩
    cases command with
    | data payload => trivial
    | close =>
      obtain ⟨hclosed, hnone⟩ := hclose (List.mem_cons_self ..)
      exact ⟨hclosed, hnone, hqueue⟩
  | empty runs hand queued =>
    refine ⟨h.closeLast, h.of_close, h.of_enqueuing, ?_⟩
    have hempty : old.queue = [] := queued
    exact fun command hmem => nomatch hempty ▸ hmem
  | wrote rest draining n => exact ⟨h.closeLast, h.of_close, h.of_enqueuing, trivial⟩
  | close draining =>
    have hover : Upload.Over _ := h.stage
    exact ⟨h.closeLast, fun _ => ⟨rfl, hover.enqueuing⟩, fun hsome => absurd hover.enqueuing hsome,
      ⟨rfl, hover.enqueuing, hover.noData⟩⟩
  | closed hclosed =>
    refine ⟨h.closeLast, h.of_close, h.of_enqueuing, ?_⟩
    by_cases hnone : enqueuing = none
    · exact .inr ⟨hclosed, hnone, h.stage⟩
    · exact .inl (h.of_enqueuing hnone hclosed)
  | unaborted haborted =>
    refine ⟨h.closeLast, h.of_close, h.of_enqueuing, ?_⟩
    have hseen : old.aborted = true ∨ Upload.Over _ := h.stage
    rcases hseen with haborts | hover
    · simp [haborts] at haborted
    · exact ⟨hover.closed, hover.enqueuing, hover.noData⟩
  | shutdown failed => exact ⟨trivial, nofun, h.of_enqueuing, trivial⟩

theorem Upload.Orderly.step (h : upload.Orderly) (capacity : Nat)
    {action : UploadAction} (htime : upload.SendsInTime action) :
    (upload.step capacity action).1.Orderly := by
  by_cases hwriter : ∃ choice, action = .writer choice
  · obtain ⟨choice, rfl⟩ := hwriter
    exact h.writes (writerStep_move upload.shutdown upload.link upload.writer choice)
  · refine h.quietly (upload.step_quietly capacity action (not_exists.mp hwriter)) ?_
    intro _ hlog
    cases action with
    | send reserved => exact htime
    | writer choice => exact absurd ⟨choice, rfl⟩ hwriter
    | checkOpen payload =>
      simp only [Upload.step] at hlog
      split at hlog <;> exact absurd rfl hlog
    | abortControl | closeSession => exact absurd rfl hlog
    | _ => exact absurd (upload.unlessEnqueuing_log ..) hlog

/-- The target sees the end only after every accepted byte. -/
def EndsAfterAll (before : List UploadEvent) (event : UploadEvent) : Prop :=
  event = .shutdown → writtenUpload before = acceptedUpload before

theorem WriterMove.of_shutdown (h : WriterMove link stage stage' link' log)
    (hmem : .shutdown ∈ log) : stage = .shuttingDown ∧ log = [.shutdown] := by
  cases h with
  | shutdown failed => exact ⟨rfl, rfl⟩
  | wrote rest draining n => simp at hmem
  | _ => exact nomatch hmem

theorem Upload.step_of_shutdown (hmem : .shutdown ∈ (Upload.step capacity upload action).2) :
    upload.writer = .shuttingDown ∧ (upload.step capacity action).2 = [.shutdown] := by
  by_cases hwriter : ∃ choice, action = .writer choice
  · obtain ⟨choice, rfl⟩ := hwriter
    exact (writerStep_move upload.shutdown upload.link upload.writer choice).of_shutdown hmem
  · have hquiet := upload.step_quietly capacity action (not_exists.mp hwriter)
    generalize (upload.step capacity action).1 = after,
      (upload.step capacity action).2 = log at hquiet hmem
    cases hquiet with
    | accepted payload _ _ => simp at hmem
    | _ => exact nomatch hmem

theorem Upload.Over.unwritten (h : upload.Over) : upload.link.queued = [] := by
  refine List.flatMap_eq_nil_iff.mpr fun command hmem => ?_
  rw [h.noData command hmem]
  rfl

theorem Upload.Orderly.ends (h : upload.Orderly)
    (hconserved : upload.Conserved seen) (capacity : Nat) (action : UploadAction) :
    Each (fun before => EndsAfterAll (seen ++ before)) (upload.step capacity action).2 := by
  intro before event after hlog hevent
  subst hevent
  have hmem : .shutdown ∈ (upload.step capacity action).2 := by simp [hlog]
  obtain ⟨hwriter, hone⟩ := Upload.step_of_shutdown hmem
  obtain rfl : before = [] := by
    rw [hone] at hlog
    cases before with
    | nil => rfl
    | cons _ _ => simp at hlog
  have hover : upload.Over := by simpa [StageHolds, hwriter] using h.stage
  have hexact := hconserved.exact (by simp [hwriter])
  rw [Upload.unwritten, hover.unwritten, hwriter] at hexact
  simpa [WriterStage.inHand] using hexact.symm

theorem upload_prefix_and_orderly_end (capacity : Nat) (flow : TargetFlow)
    (actions : List UploadAction) :
    let r := run (Upload.step capacity) (.start flow) actions
    writtenUpload r.2 <+: acceptedUpload r.2 ∧
      (Along (Upload.step capacity) Upload.SendsInTime (.start flow) actions →
        Each EndsAfterAll r.2) := by
  refine ⟨(run_conserved capacity flow actions).written_le, fun htime => ?_⟩
  refine run_each (fun (log : List UploadEvent) (upload : Upload) =>
    upload.Conserved log ∧ upload.Orderly) ?_ ?_ ?_ htime
  · exact fun _ _ action htime h => ⟨h.1.step capacity action, h.2.step capacity htime⟩
  · exact fun _ _ action _ h => h.2.ends h.1 capacity action
  · exact ⟨⟨List.prefix_refl _, fun _ => rfl⟩, trivial, nofun, nofun, trivial⟩

def plainUpload : List UploadAction :=
  [.writer .go, .checkOpen [7, 8], .send true, .closeClientToTarget, .writer .command, .writer .go,
    .writer (.took 1), .writer (.took 1), .writer .go, .writer .go, .writer .command, .writer .go,
    .writer .go]

theorem plainUpload_ends :
    let r := run (Upload.step 64) (.start (.new 2 none 1 0)) plainUpload
    r.2 = [.accepted [7, 8], .wrote [7], .wrote [8], .shutdown] ∧ Each EndsAfterAll r.2 := by
  exact ⟨by decide +kernel, (upload_prefix_and_orderly_end _ _ _).2 (by decide +kernel)⟩

/-- The loop accepts a payload between the writer's last two looks. -/
def overtakenUpload : List UploadAction :=
  [.writer .go, .closeSession, .writer .shutdown, .writer .go, .checkOpen [7], .send true,
    .closeClientToTarget, .writer .go, .writer .go, .writer .go]

theorem shutdown_overtakes_payload :
    let r := run (Upload.step 64) (.start (.new 2 none 1 0)) overtakenUpload
    r.2 = [.accepted [7], .shutdown] ∧ ¬ Each EndsAfterAll r.2 := by
  have hlog : (run (Upload.step 64) (.start (.new 2 none 1 0)) overtakenUpload).2 =
      [.accepted [7], .shutdown] := by decide +kernel
  refine ⟨hlog, fun heach => ?_⟩
  rw [hlog] at heach
  have hends := heach [.accepted [7]] .shutdown [] rfl rfl
  simp [writtenUpload, acceptedUpload, UploadEvent.writtenBytes, UploadEvent.acceptedBytes] at hends

end UncrownedKing.Relay
