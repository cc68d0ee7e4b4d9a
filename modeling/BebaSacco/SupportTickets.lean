import BebaSacco.Deposits
import BebaSacco.Users
import BebaSacco.Lib.Run

/-! # Support tickets

A ticket has a status, which a message moves on by the role of its sender and an officer changes by hand.
Both read the ticket first, and check the status they are going to write against the one they have read;
the transaction that writes it does not look again. Next to the ticket the desk keeps which call has
sent which message.

Results:
1. `refused_sends_nothing`: a call that is refused has added no message, in any order of the calls.
2. `support_life_cycle`: every change of the status is an allowed one and the member's messages are
   taken, in the runs where a writer finds the status it has read, or the one it writes, and the member
   does not write to a ticket in progress.
3. `support_goes_astray`: two calls that overlap reopen a ticket in progress, and a member who writes to
   one is refused.
-/

namespace BebaSacco

/-! ## 1. The ticket -/

inductive TicketStatus
  | opened | inProgress | waitingOnMember | resolved | closed
  deriving DecidableEq, Repr

inductive TicketPriority
  | low | medium | high | critical
  deriving DecidableEq, Repr

def TicketStatus.text : TicketStatus → String
  | .opened => "OPEN"
  | .inProgress => "IN_PROGRESS"
  | .waitingOnMember => "WAITING_ON_MEMBER"
  | .resolved => "RESOLVED"
  | .closed => "CLOSED"

def ALLOWED_TRANSITIONS : TicketStatus → List TicketStatus
  | .opened => [.inProgress, .closed]
  | .inProgress => [.waitingOnMember, .resolved]
  | .waitingOnMember => [.inProgress, .opened]
  | .resolved => [.closed, .opened]
  | .closed => [.opened]

structure AuthActor where
  userId : Nat
  role : UserRole
  deriving DecidableEq, Repr

structure TicketMessage where
  senderId : Nat
  senderRole : UserRole
  content : String
  attachments : List String
  deriving DecidableEq, Repr

/-- `memberUserId` is the user of the ticket's member. -/
structure SupportTicket where
  memberUserId : Nat
  status : TicketStatus
  priority : TicketPriority
  assignedTo : Option Nat
  messages : List TicketMessage
  deriving DecidableEq, Repr

structure CreateTicketMessageDto where
  content : String
  attachments : Option (List String) := none
  reopen : Option Bool := none
  deriving DecidableEq, Repr

structure UpdateSupportTicketDto where
  status : Option TicketStatus := none
  priority : Option TicketPriority := none
  assignedTo : Option Nat := none
  note : Option String := none
  resolutionNote : Option String := none
  deriving DecidableEq, Repr

inductive TicketRequest
  | addMessage (dto : CreateTicketMessageDto)
  | updateTicket (dto : UpdateSupportTicketDto)
  deriving DecidableEq, Repr

/-! ## 2. Reading and writing -/

def assertTicketAccess (ticket : SupportTicket) (actor : AuthActor) : Except AuthErr Unit :=
  if actor.role = .member ∧ ticket.memberUserId ≠ actor.userId then
    .error (.forbidden "You do not have access to this ticket")
  else .ok ()

def assertAllowedTransition (currentStatus nextStatus : TicketStatus) : Except AuthErr Unit :=
  if nextStatus ∈ ALLOWED_TRANSITIONS currentStatus then .ok ()
  else
    .error (.badRequest ("Invalid support ticket status transition: " ++
      s!"{currentStatus.text} -> {nextStatus.text}"))

/-- What is checked on the ticket that has been read. -/
def addMessage.check (dto : CreateTicketMessageDto) (status : TicketStatus) : Except AuthErr Unit :=
  if status = .closed ∧ dto.reopen.getD false = false then
    .error (.badRequest "Closed tickets can only receive messages when reopen is true")
  else .ok ()

def addMessage.nextStatus (actor : AuthActor) (dto : CreateTicketMessageDto)
    (status : TicketStatus) : TicketStatus :=
  if dto.reopen.getD false = true then .opened
  else if actor.role = .member then .opened
  else if status = .opened then .inProgress
  else .waitingOnMember

def CreateTicketMessageDto.message (dto : CreateTicketMessageDto) (actor : AuthActor) :
    TicketMessage :=
  ⟨actor.userId, actor.role, dto.content, dto.attachments.getD []⟩

/-- The transaction: `status` is the one that has been read, `ticket` the row that it finds. -/
def addMessage.write (actor : AuthActor) (dto : CreateTicketMessageDto) (status : TicketStatus)
    (ticket : SupportTicket) : Except AuthErr (SupportTicket × Option TicketMessage) := do
  let message := dto.message actor
  let nextStatus := addMessage.nextStatus actor dto status
  if nextStatus ≠ status then assertAllowedTransition status nextStatus
  return ({ ticket with status := nextStatus, messages := ticket.messages ++ [message] },
    some message)

/-- `!note?.trim()` -/
def blank (note : Option String) : Bool := note.all fun text => jsTrim text == ""

def updateTicket.check (dto : UpdateSupportTicketDto) (status : TicketStatus) :
    Except AuthErr Unit := do
  match dto.status with
  | none => return ()
  | some next =>
    if next ≠ status then
      assertAllowedTransition status next
      if (next = .resolved ∨ next = .closed) ∧ blank dto.resolutionNote = true then
        .error (.badRequest "resolutionNote is required when resolving or closing a support ticket")

def updateTicket.write (actor : AuthActor) (dto : UpdateSupportTicketDto)
    (ticket : SupportTicket) : SupportTicket × Option TicketMessage :=
  let note := (dto.resolutionNote <|> dto.note).filter (· != "")
  let message := note.map fun content => (⟨actor.userId, actor.role, content, []⟩ : TicketMessage)
  ({ ticket with
      status := dto.status.getD ticket.status
      priority := dto.priority.getD ticket.priority
      assignedTo := dto.assignedTo <|> ticket.assignedTo
      messages := ticket.messages ++ message.toList }, message)

/-- How far a call has come; `loaded` with the status that it has read. -/
inductive CallState
  | called
  | loaded (status : TicketStatus)
  | accepted
  | refused
  deriving DecidableEq, Repr

structure TicketCall where
  actor : AuthActor
  request : TicketRequest
  state : CallState
  deriving DecidableEq, Repr

def TicketCall.load (c : TicketCall) (ticket : SupportTicket) : Except AuthErr Unit := do
  assertTicketAccess ticket c.actor
  match c.request with
  | .addMessage dto => addMessage.check dto ticket.status
  | .updateTicket dto => updateTicket.check dto ticket.status

def TicketCall.write (c : TicketCall) (status : TicketStatus) (ticket : SupportTicket) :
    Except AuthErr (SupportTicket × Option TicketMessage) :=
  match c.request with
  | .addMessage dto => addMessage.write c.actor dto status ticket
  | .updateTicket dto => .ok (updateTicket.write c.actor dto ticket)

/-! ## 3. The desk -/

/-- The ticket, the calls in the order in which they came, and which of them has sent which message. -/
structure SupportDesk where
  ticket : SupportTicket
  calls : List TicketCall
  sent : List (Nat × TicketMessage)
  deriving DecidableEq, Repr

inductive SupportEvent
  | call (actor : AuthActor) (request : TicketRequest)
  | advance (i : Nat)
  deriving DecidableEq, Repr

def SupportDesk.opening (ticket : SupportTicket) : SupportDesk := ⟨ticket, [], []⟩

def SupportDesk.settle (d : SupportDesk) (i : Nat) (c : TicketCall) (state : CallState) :
    SupportDesk :=
  { d with calls := d.calls.set i { c with state := state } }

/-- A call reads the ticket, and later writes to it. -/
def SupportDesk.advance (d : SupportDesk) (i : Nat) (c : TicketCall) : SupportDesk :=
  match c.state with
  | .called =>
    match c.load d.ticket with
    | .ok _ => d.settle i c (.loaded d.ticket.status)
    | .error _ => d.settle i c .refused
  | .loaded status =>
    match c.write status d.ticket with
    | .ok (ticket, message) =>
      { d.settle i c .accepted with
        ticket := ticket
        sent := d.sent ++ message.toList.map fun m => (i, m) }
    | .error _ => d.settle i c .refused
  | _ => d

def SupportDesk.step (d : SupportDesk) : SupportEvent → SupportDesk
  | .call actor request => { d with calls := d.calls ++ [⟨actor, request, .called⟩] }
  | .advance i =>
    match d.calls[i]? with
    | some c => d.advance i c
    | none => d

abbrev SupportDesk.after (ticket : SupportTicket) (events : List SupportEvent) : SupportDesk :=
  Machine.run SupportDesk.step (.opening ticket) events

/-- A status that is kept or changed to an allowed one. -/
def allowedChange (status status' : TicketStatus) : Prop :=
  status' = status ∨ status' ∈ ALLOWED_TRANSITIONS status

/-- The status that the transaction of a call writes. -/
def TicketCall.written (c : TicketCall) (status : TicketStatus) : Option TicketStatus :=
  match c.request with
  | .addMessage dto => some (addMessage.nextStatus c.actor dto status)
  | .updateTicket dto => dto.status

/-- A message from the ticket's member. -/
def TicketCall.fromMember (c : TicketCall) (ticket : SupportTicket) : Bool :=
  match c.request with
  | .addMessage _ => c.actor.role == .member && c.actor.userId == ticket.memberUserId
  | .updateTicket _ => false

namespace SupportLemmas

variable {c : TicketCall} {status : TicketStatus} {ticket ticket' : SupportTicket}
  {message : Option TicketMessage}

theorem assertAllowedTransition_ok {next : TicketStatus}
    (h : assertAllowedTransition status next = .ok ()) : next ∈ ALLOWED_TRANSITIONS status := by
  rw [assertAllowedTransition] at h
  split at h
  · assumption
  · cases h

theorem addMessage_write_ok (actor : AuthActor) (dto : CreateTicketMessageDto)
    (h : allowedChange status (addMessage.nextStatus actor dto status)) :
    addMessage.write actor dto status ticket =
      .ok ({ ticket with
          status := addMessage.nextStatus actor dto status
          messages := ticket.messages ++ [dto.message actor] }, some (dto.message actor)) := by
  simp only [addMessage.write]
  by_cases heq : addMessage.nextStatus actor dto status = status
  · rw [if_neg (fun hne => hne heq)]
    rfl
  · have hallowed := h.resolve_left heq
    rw [if_pos heq, assertAllowedTransition, if_pos hallowed]
    rfl

theorem addMessage_write_error (actor : AuthActor) (dto : CreateTicketMessageDto)
    (h : ¬ allowedChange status (addMessage.nextStatus actor dto status)) (ticket : SupportTicket) :
    ∃ err, addMessage.write actor dto status ticket = .error err := by
  simp only [addMessage.write]
  have heq : addMessage.nextStatus actor dto status ≠ status := fun heq => h (Or.inl heq)
  have hrefused : addMessage.nextStatus actor dto status ∉ ALLOWED_TRANSITIONS status :=
    fun hmem => h (Or.inr hmem)
  rw [if_pos heq, assertAllowedTransition, if_neg hrefused]
  exact ⟨_, rfl⟩

/-- What the transaction of a call does: it writes one status, adds at most one message and leaves the
member of the ticket. -/
theorem write_ok (h : c.write status ticket = .ok (ticket', message)) :
    ticket'.status = (c.written status).getD ticket.status ∧
      ticket'.memberUserId = ticket.memberUserId ∧
      ticket'.messages = ticket.messages ++ message.toList := by
  rcases c with ⟨actor, request, state⟩
  cases request with
  | addMessage dto =>
    change addMessage.write actor dto status ticket = _ at h
    by_cases hallowed : allowedChange status (addMessage.nextStatus actor dto status)
    · rw [addMessage_write_ok actor dto hallowed] at h
      obtain ⟨rfl, rfl⟩ := Prod.mk.inj (Except.ok.inj h)
      exact ⟨rfl, rfl, rfl⟩
    · obtain ⟨err, herr⟩ := addMessage_write_error actor dto hallowed ticket
      rw [herr] at h
      cases h
  | updateTicket dto =>
    obtain ⟨rfl, rfl⟩ := Prod.mk.inj (Except.ok.inj h)
    exact ⟨rfl, rfl, rfl⟩

/-- A call that has read the ticket writes a status that may follow the one it has read: an update has
checked this by then, a message checks it now. -/
def Checked (c : TicketCall) : Prop :=
  ∀ status next, c.state = .loaded status → c.written status = some next →
    (∃ dto, c.request = .updateTicket dto) → allowedChange status next

theorem written_allowed (h : c.write status ticket = .ok (ticket', message)) (hc : Checked c)
    (hstate : c.state = .loaded status) {next : TicketStatus} (hnext : c.written status = some next) :
    allowedChange status next := by
  rcases c with ⟨actor, request, state⟩
  cases request with
  | addMessage dto =>
    obtain rfl : addMessage.nextStatus actor dto status = next := Option.some.inj hnext
    change addMessage.write actor dto status ticket = _ at h
    by_contra hallowed
    obtain ⟨err, herr⟩ := addMessage_write_error actor dto hallowed ticket
    rw [herr] at h
    cases h
  | updateTicket dto => exact hc status next hstate hnext ⟨dto, rfl⟩

theorem check_updateTicket {dto : UpdateSupportTicketDto} (h : updateTicket.check dto status = .ok ())
    {next : TicketStatus} (hnext : dto.status = some next) : allowedChange status next := by
  simp only [updateTicket.check, hnext] at h
  by_cases heq : next = status
  · exact Or.inl heq
  · rw [if_pos heq] at h
    cases hassert : assertAllowedTransition status next with
    | error err =>
      rw [hassert] at h
      cases h
    | ok u => exact Or.inr (assertAllowedTransition_ok hassert)

theorem load_ok (h : c.load ticket = .ok ()) {dto : UpdateSupportTicketDto}
    (hrequest : c.request = .updateTicket dto) : updateTicket.check dto ticket.status = .ok () := by
  simp only [TicketCall.load, hrequest] at h
  cases haccess : assertTicketAccess ticket c.actor with
  | error err =>
    rw [haccess] at h
    cases h
  | ok u =>
    rw [haccess] at h
    exact h

theorem load_checked (h : c.load ticket = .ok ()) :
    Checked { c with state := .loaded ticket.status } := by
  rintro status next hstate hnext ⟨dto, hrequest⟩
  obtain rfl : ticket.status = status := CallState.loaded.inj hstate
  rw [TicketCall.written, show c.request = _ from hrequest] at hnext
  exact check_updateTicket (load_ok h hrequest) hnext

/-! ### One event -/

variable {d : SupportDesk} {e : SupportEvent}

/-- A call comes, reads the ticket, is refused, or writes to the ticket; or nothing happens. -/
theorem step_cases (d : SupportDesk) (e : SupportEvent) :
    (∃ actor request, e = .call actor request ∧
      d.step e = { d with calls := d.calls ++ [⟨actor, request, .called⟩] }) ∨
    (∃ i c, e = .advance i ∧ d.calls[i]? = some c ∧ c.state = .called ∧ c.load d.ticket = .ok () ∧
      d.step e = d.settle i c (.loaded d.ticket.status)) ∨
    (∃ i c, e = .advance i ∧ d.calls[i]? = some c ∧ c.state ≠ .accepted ∧
      d.step e = d.settle i c .refused) ∨
    (∃ i c status ticket message, e = .advance i ∧ d.calls[i]? = some c ∧
      c.state = .loaded status ∧ c.write status d.ticket = .ok (ticket, message) ∧
      d.step e = { d.settle i c .accepted with
        ticket := ticket
        sent := d.sent ++ message.toList.map fun m => (i, m) }) ∨
    d.step e = d := by
  cases e with
  | call actor request => exact Or.inl ⟨actor, request, rfl, rfl⟩
  | advance i =>
    refine Or.inr ?_
    simp only [SupportDesk.step]
    cases hc : d.calls[i]? with
    | none => exact Or.inr (Or.inr (Or.inr rfl))
    | some c =>
      simp only [SupportDesk.advance]
      cases hstate : c.state with
      | called =>
        cases hload : c.load d.ticket with
        | ok u => exact Or.inl ⟨i, c, rfl, hc, hstate, hload, rfl⟩
        | error err =>
          exact Or.inr (Or.inl ⟨i, c, rfl, hc, by simp [hstate], rfl⟩)
      | loaded status =>
        cases hwrite : c.write status d.ticket with
        | ok r =>
          obtain ⟨ticket, message⟩ := r
          exact Or.inr (Or.inr (Or.inl ⟨i, c, status, ticket, message, rfl, hc, hstate, hwrite,
            by simp only [hwrite]⟩))
        | error err =>
          exact Or.inr (Or.inl ⟨i, c, rfl, hc, by simp [hstate], by simp only [hwrite]⟩)
      | accepted => exact Or.inr (Or.inr (Or.inr rfl))
      | refused => exact Or.inr (Or.inr (Or.inr rfl))

/-- What holds of the desk in every run from a ticket. -/
structure Kept (opened : SupportTicket) (d : SupportDesk) : Prop where
  checked : ∀ (i : Nat) (c : TicketCall), d.calls[i]? = some c → Checked c
  senders : ∀ (i : Nat) (m : TicketMessage), (i, m) ∈ d.sent →
    ∃ c : TicketCall, d.calls[i]? = some c ∧ c.state = .accepted
  messages : d.ticket.messages = opened.messages ++ d.sent.map Prod.snd
  member : d.ticket.memberUserId = opened.memberUserId

theorem getElem_set_cases {α : Type} {l : List α} {i j : Nat} {a b : α}
    (h : (l.set i a)[j]? = some b) : (j = i ∧ b = a) ∨ (j ≠ i ∧ l[j]? = some b) := by
  rw [List.getElem?_set] at h
  split at h
  · next hij =>
    split at h
    · exact Or.inl ⟨hij.symm, (Option.some.inj h).symm⟩
    · cases h
  · next hij => exact Or.inr ⟨fun he => hij he.symm, h⟩

/-- A call that has not been accepted moves on. -/
theorem kept_settle {opened : SupportTicket} (h : Kept opened d) {i : Nat}
    (hc : d.calls[i]? = some c) (hopen : c.state ≠ .accepted) {state : CallState}
    (hchecked : Checked { c with state := state }) : Kept opened (d.settle i c state) where
  checked j c' hj := by
    rcases getElem_set_cases hj with ⟨_, rfl⟩ | ⟨_, hj⟩
    · exact hchecked
    · exact h.checked j c' hj
  senders j m hm := by
    obtain ⟨c', hj, hacc⟩ := h.senders j m hm
    have hne : i ≠ j := by
      rintro rfl
      rw [hc] at hj
      exact hopen (Option.some.inj hj ▸ hacc)
    exact ⟨c', (List.getElem?_set_ne hne).trans hj, hacc⟩
  messages := h.messages
  member := h.member

theorem kept_step {opened : SupportTicket} (h : Kept opened d) (e : SupportEvent) :
    Kept opened (d.step e) := by
  rcases step_cases d e with ⟨actor, request, _, hstep⟩ | ⟨i, c, _, hc, hstate, hload, hstep⟩ |
    ⟨i, c, _, hc, hstate, hstep⟩ | ⟨i, c, status, ticket, message, _, hc, hstate, hwrite, hstep⟩ |
    hstep
  · rw [hstep]
    refine ⟨fun j c' hj => ?_, fun j m hm => ?_, h.messages, h.member⟩
    · rw [List.getElem?_append] at hj
      split at hj
      · exact h.checked j c' hj
      · obtain rfl := List.mem_singleton.mp (List.mem_of_getElem? hj)
        intro _ _ hstate
        cases hstate
    · obtain ⟨c', hj, hacc⟩ := h.senders j m hm
      have hlt : j < d.calls.length := (List.getElem?_eq_some_iff.mp hj).1
      exact ⟨c', (List.getElem?_append_left hlt).trans hj, hacc⟩
  · rw [hstep]
    exact kept_settle h hc (by simp [hstate]) (load_checked hload)
  · rw [hstep]
    refine kept_settle h hc hstate ?_
    intro _ _ hrefused
    cases hrefused
  · obtain ⟨_, hmember, hmessages⟩ := write_ok hwrite
    have hsettled : Kept opened (d.settle i c .accepted) :=
      kept_settle h hc (by simp [hstate]) (by
        intro _ _ haccepted
        cases haccepted)
    rw [hstep]
    refine ⟨hsettled.checked, fun j m hm => ?_, ?_, hmember.trans h.member⟩
    · rcases List.mem_append.mp hm with hold | hnew
      · exact hsettled.senders j m hold
      · obtain ⟨m', _, hm'⟩ := List.mem_map.mp hnew
        obtain ⟨rfl, rfl⟩ := Prod.mk.inj hm'
        have hlt : i < d.calls.length := (List.getElem?_eq_some_iff.mp hc).1
        exact ⟨_, List.getElem?_set_self hlt, rfl⟩
    · have hsent : (message.toList.map fun m => (i, m)).map Prod.snd = message.toList := by
        rw [List.map_map]
        exact List.map_id _
      rw [hmessages, h.messages, List.map_append, hsent, List.append_assoc]
  · rw [hstep]
    exact h

theorem kept_opening (ticket : SupportTicket) : Kept ticket (.opening ticket) where
  checked i c h := by cases h
  senders i m h := by cases h
  messages := (List.append_nil _).symm
  member := rfl

theorem kept_run (ticket : SupportTicket) (events : List SupportEvent) :
    Kept ticket (SupportDesk.after ticket events) :=
  Machine.run_induct (fun _ e h _ => kept_step h e) (kept_opening ticket)
    (Machine.guarded_of_forall fun _ _ => trivial)

end SupportLemmas

open SupportLemmas

/-! ## 4. The life cycle -/

/-- A writer finds the status that it has read, or the one it writes, and the member does not write to a
ticket in progress. -/
def SupportDesk.orderly (d : SupportDesk) : SupportEvent → Bool
  | .call _ _ => true
  | .advance i =>
    match d.calls[i]? with
    | none => true
    | some c =>
      match c.state with
      | .called => !(c.fromMember d.ticket && d.ticket.status == .inProgress)
      | .loaded status =>
        (c.written status).all fun next => d.ticket.status == status || d.ticket.status == next
      | _ => true

/-- The events of a message that is sent and handled without an overlap. -/
def SupportDesk.uninterrupted (d : SupportDesk) (actor : AuthActor) (dto : CreateTicketMessageDto) :
    List SupportEvent :=
  [.call actor (.addMessage dto), .advance d.calls.length, .advance d.calls.length]

/-- A call that is refused has added no message, whatever the order of the calls. -/
theorem refused_sends_nothing (ticket : SupportTicket) (events : List SupportEvent) (i : Nat)
    (c : TicketCall) (m : TicketMessage) (hc : (SupportDesk.after ticket events).calls[i]? = some c)
    (hrefused : c.state = .refused) : (i, m) ∉ (SupportDesk.after ticket events).sent := by
  intro hm
  obtain ⟨c', hc', hacc⟩ := (kept_run ticket events).senders i m hm
  rw [hc] at hc'
  rw [← Option.some.inj hc', hrefused] at hacc
  cases hacc

theorem status_step {opened : SupportTicket} {d : SupportDesk} (h : Kept opened d)
    {e : SupportEvent} (he : d.orderly e = true) :
    allowedChange d.ticket.status (d.step e).ticket.status := by
  rcases SupportLemmas.step_cases d e with ⟨actor, request, _, hstep⟩ |
    ⟨i, c, _, hc, hstate, hload, hstep⟩ | ⟨i, c, _, hc, hstate, hstep⟩ |
    ⟨i, c, status, ticket, message, rfl, hc, hstate, hwrite, hstep⟩ | hstep
  · exact Or.inl (by rw [hstep])
  · exact Or.inl (by rw [hstep]; rfl)
  · exact Or.inl (by rw [hstep]; rfl)
  · rw [hstep]
    dsimp only
    rw [(write_ok hwrite).1]
    cases hnext : c.written status with
    | none => exact Or.inl rfl
    | some next =>
      simp only [SupportDesk.orderly, hc, hstate, hnext, Option.all_some, Bool.or_eq_true,
        beq_iff_eq] at he
      rcases he with hread | hwritten
      · rw [hread]
        exact written_allowed hwrite (h.checked i c hc) hstate hnext
      · exact Or.inl hwritten.symm
  · exact Or.inl (by rw [hstep])

theorem load_member {ticket : SupportTicket} {actor : AuthActor} {dto : CreateTicketMessageDto}
    (howner : ticket.memberUserId = actor.userId) (hclosed : ticket.status ≠ .closed)
    (state : CallState) : TicketCall.load ⟨actor, .addMessage dto, state⟩ ticket = .ok () := by
  have haccess : assertTicketAccess ticket actor = .ok () := by
    rw [assertTicketAccess, if_neg fun h => h.2 howner]
  have hcheck : addMessage.check dto ticket.status = .ok () := by
    rw [addMessage.check, if_neg fun h => hclosed h.1]
  rw [TicketCall.load, haccess]
  exact hcheck

/-- A member's message opens the ticket, which the statuses allow but for a ticket in progress. -/
theorem member_allowed {actor : AuthActor} {dto : CreateTicketMessageDto} {status : TicketStatus}
    (hrole : actor.role = .member) (hprogress : status ≠ .inProgress) :
    allowedChange status (addMessage.nextStatus actor dto status) := by
  have hopened : addMessage.nextStatus actor dto status = .opened := by
    rw [addMessage.nextStatus, if_pos hrole, ite_self]
  rw [hopened]
  cases status with
  | opened => exact Or.inl rfl
  | inProgress => exact absurd rfl hprogress
  | waitingOnMember => exact Or.inr (by decide)
  | resolved => exact Or.inr (by decide)
  | closed => exact Or.inr (by decide)

/-- The member's message is taken, unless the ticket is closed or in progress. -/
theorem member_accepted {d : SupportDesk} {actor : AuthActor} {dto : CreateTicketMessageDto}
    (hrole : actor.role = .member) (howner : d.ticket.memberUserId = actor.userId)
    (hclosed : d.ticket.status ≠ .closed) (hprogress : d.ticket.status ≠ .inProgress) :
    (Machine.run SupportDesk.step d (d.uninterrupted actor dto)).calls[d.calls.length]? =
      some ⟨actor, .addMessage dto, .accepted⟩ := by
  have hload : TicketCall.load ⟨actor, .addMessage dto, .called⟩ d.ticket = .ok () :=
    load_member howner hclosed .called
  have hallowed : allowedChange d.ticket.status (addMessage.nextStatus actor dto d.ticket.status) :=
    member_allowed hrole hprogress
  have hwrite : addMessage.write actor dto d.ticket.status d.ticket = _ :=
    addMessage_write_ok actor dto hallowed
  simp [Machine.run, SupportDesk.uninterrupted, SupportDesk.step, SupportDesk.advance, hload,
    SupportDesk.settle, TicketCall.write, hwrite]

/-- In an orderly run the member does not write to a ticket in progress. -/
theorem not_in_progress {d : SupportDesk} {actor : AuthActor} {dto : CreateTicketMessageDto}
    {post : List SupportEvent} (hrole : actor.role = .member)
    (howner : d.ticket.memberUserId = actor.userId)
    (h : Machine.Guarded SupportDesk.step (fun d e => d.orderly e = true) d
      (d.uninterrupted actor dto ++ post)) : d.ticket.status ≠ .inProgress := by
  intro hprogress
  have hread := h.2.1
  simp [SupportDesk.orderly, SupportDesk.step, TicketCall.fromMember, hrole, howner,
    hprogress] at hread

theorem after_append (ticket : SupportTicket) (pre post : List SupportEvent) :
    SupportDesk.after ticket (pre ++ post) =
      Machine.run SupportDesk.step (SupportDesk.after ticket pre) post :=
  Machine.run_append

/-- In a run whose events are orderly every change of the status is an allowed one, a refused call has
added no message, the messages are those that were sent, and the member's message is taken whenever it
is sent to a ticket that is not closed and no other call comes between. The member of the ticket has the
role of a member; an owner who was promoted writes as staff. -/
theorem support_life_cycle (ticket : SupportTicket) (events : List SupportEvent)
    (h : Machine.Guarded SupportDesk.step (fun d e => d.orderly e = true) (.opening ticket) events) :
    (∀ pre e post, events = pre ++ e :: post →
      allowedChange (SupportDesk.after ticket pre).ticket.status
        (SupportDesk.after ticket (pre ++ [e])).ticket.status) ∧
    (∀ (i : Nat) (c : TicketCall) (m : TicketMessage),
      (SupportDesk.after ticket events).calls[i]? = some c → c.state = .refused →
        (i, m) ∉ (SupportDesk.after ticket events).sent) ∧
    (SupportDesk.after ticket events).ticket.messages =
      ticket.messages ++ (SupportDesk.after ticket events).sent.map Prod.snd ∧
    (∀ pre post actor dto,
      events = pre ++ (SupportDesk.after ticket pre).uninterrupted actor dto ++ post →
      actor.role = .member → ticket.memberUserId = actor.userId →
      (SupportDesk.after ticket pre).ticket.status ≠ .closed →
        (SupportDesk.after ticket
            (pre ++ (SupportDesk.after ticket pre).uninterrupted actor dto)).calls[
              (SupportDesk.after ticket pre).calls.length]? =
          some ⟨actor, .addMessage dto, .accepted⟩) := by
  refine ⟨?_, ?_, (kept_run ticket events).messages, ?_⟩
  · intro pre e post heq
    rw [heq] at h
    have he := (Machine.guarded_append.mp h).2.1
    rw [after_append]
    exact status_step (kept_run ticket pre) he
  · intro i c m hc hrefused
    exact refused_sends_nothing ticket events i c m hc hrefused
  · intro pre post actor dto heq hrole howner hclosed
    rw [heq, List.append_assoc] at h
    have hguarded := (Machine.guarded_append.mp h).2
    have howner' := (kept_run ticket pre).member.trans howner
    rw [after_append]
    exact member_accepted hrole howner' hclosed (not_in_progress hrole howner' hguarded)

def exTicket (status : TicketStatus) : SupportTicket := ⟨1, status, .medium, none, []⟩

def exTicketMember : AuthActor := ⟨1, .member⟩

def exTicketOfficer : AuthActor := ⟨2, .loanOfficer⟩

/-- An officer takes up the ticket and asks, the member answers, and writes once more. -/
def exTicketLife : List SupportEvent :=
  [.call exTicketOfficer (.updateTicket { status := some .inProgress }), .advance 0, .advance 0,
    .call exTicketOfficer (.addMessage ⟨"Which account?", none, none⟩), .advance 1, .advance 1,
    .call exTicketMember (.addMessage ⟨"The second.", none, none⟩), .advance 2, .advance 2,
    .call exTicketMember (.addMessage ⟨"Thanks.", none, some true⟩), .advance 3, .advance 3]

theorem support_life_cycle_of_four :
    allowedChange (SupportDesk.after (exTicket .opened) (exTicketLife.take 5)).ticket.status
      (SupportDesk.after (exTicket .opened) (exTicketLife.take 5 ++ [.advance 1])).ticket.status :=
  (support_life_cycle (exTicket .opened) exTicketLife (by decide +kernel)).1 (exTicketLife.take 5)
    (.advance 1) (exTicketLife.drop 6) (by decide +kernel)

/-- An update and the member's message that both read WAITING_ON_MEMBER take the ticket from IN_PROGRESS
to OPEN; and the member's message to a ticket in progress is refused although no other call is there. -/
theorem support_goes_astray :
    ¬ allowedChange
        (SupportDesk.after (exTicket .waitingOnMember)
          [.call exTicketOfficer (.updateTicket { status := some .inProgress }),
            .call exTicketMember (.addMessage ⟨"Hello?", none, none⟩), .advance 0, .advance 1,
            .advance 0]).ticket.status
        (SupportDesk.after (exTicket .waitingOnMember)
          [.call exTicketOfficer (.updateTicket { status := some .inProgress }),
            .call exTicketMember (.addMessage ⟨"Hello?", none, none⟩), .advance 0, .advance 1,
            .advance 0, .advance 1]).ticket.status ∧
      (SupportDesk.after (exTicket .inProgress)
        ((SupportDesk.opening (exTicket .inProgress)).uninterrupted exTicketMember
          ⟨"Hello?", none, none⟩)).calls =
        [⟨exTicketMember, .addMessage ⟨"Hello?", none, none⟩, .refused⟩] := by
  unfold allowedChange
  decide +kernel

end BebaSacco
