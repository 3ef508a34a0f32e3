import ChartDialogue.Proofs.Session.Runs
import ChartDialogue.Proofs.Session.SessionTable
import Mathlib.Data.List.Induction

/-! # A session is what its own commands made of it

A session remembers something of its questions, of what it asked to be suggested and of what it
accepted, and of nothing else. So it can be told from these commands alone, whatever other sessions
do in between.
-/

namespace ChartDialogue

def SessionTable.Named (sessions : SessionTable) : Prop :=
  ∀ id session, sessions.find? id = some session → session.id = id

theorem SessionTable.named_empty : SessionTable.Named StringMap.empty := by
  intro id session found
  cases found

theorem SessionTable.Named.insert {sessions : SessionTable} {id : String} {session : Session}
    (named : sessions.Named) (own : session.id = id) :
    SessionTable.Named (sessions.insert id session) := by
  intro other found present
  by_cases same : other = id
  · subst same
    rw [StringMap.find?_insert_self] at present
    cases present
    exact own
  · rw [sessions.find?_insert_of_ne session same] at present
    exact named other found present

theorem Session.id_hear? (session : Session) (utterance : Option String) :
    (session.hear? utterance).id = session.id := by
  cases utterance <;> rfl

theorem SessionTable.Named.session {sessions : SessionTable} (named : sessions.Named)
    (id : String) : (sessions.session id).id = id := by
  unfold SessionTable.session
  cases found : sessions.find? id with
  | none => rfl
  | some session => exact named id session found

namespace Router

def asks (command : Json) : Bool := (command? command).map (·.1) == some "q"

/-- Whether a command is one that a session can remember something of. -/
def concerns (command : Json) : Bool :=
  match command? command with
  | some (name, _) => name ∈ ["q", "random", "accept"]
  | none => false

def spoken? (command : Json) : Option String :=
  match command? command with
  | some ("q", payload) =>
    (QueryPayload.decode payload).toOption.map fun request => Text.trim request.utterance
  | _ => none

def answers (router : Router) (call : Call) : Bool :=
  match command? call.command with
  | some ("q", payload) =>
    match QueryPayload.decode payload, router.contextOf "q" payload with
    | .ok request, .ok context =>
      (call.parser.parse (Example.ofUtterance call.session request.utterance context) false).isOk
    | _, _ => false
  | _ => false

def remember (router : Router) (before : Option Session) (call : Call) : Option Session :=
  if opens call.command then
    some (((before.getD { id := call.session }).install (router.installs? call.command)).hear?
      (if router.answers call then spoken? call.command else none))
  else before

def sessionOf? (router : Router) (id : String) (history : List (Call × Turn)) : Option Session :=
  let own := history.filter fun entry => entry.1.session = id
  let answered := own.filter fun entry => asks entry.1.command && entry.2.answer.isOk
  if own.any fun entry => opens entry.1.command then
    some {
      id
      context := (own.filterMap fun entry => router.installs? entry.1.command).getLast?.getD .empty
      queryCount := answered.length
      lastUtterance :=
        ((answered.filterMap fun entry => spoken? entry.1.command).filter (· ≠ "")).getLast? }
  else none

/-! ## One call -/

section Step

variable {router : Router} {sessions : SessionTable} {call : Call} {turn : Turn}

theorem contextOf_withParser (router : Router) (parser : Parser) (name : String) (payload : Json) :
    (router.withParser parser).contextOf name payload = router.contextOf name payload :=
  rfl

theorem answered_of_step
    (step : Step (router.withParser call.parser) sessions call.session call.command turn)
    (named : (sessions.session call.session).id = call.session) :
    (asks call.command && turn.answer.isOk) = router.answers call := by
  cases step with
  | invalid unnamed => simp [asks, answers, unnamed]
  | queryUnread isQuery unread =>
    simp [asks, answers, isQuery, unread, Except.isOk, Except.toBool]
  | queryWithoutContext isQuery read carried =>
    rw [contextOf_withParser] at carried
    simp [asks, answers, isQuery, read, carried, Except.isOk, Except.toBool]
  | queryUnparsed isQuery read carried asked parses
  | queryAnswered _ isQuery read carried asked parses =>
    rw [contextOf_withParser] at carried
    rw [asked, named] at parses
    have said : call.parser.parse _ false = _ := parses
    simp [asks, answers, isQuery, read, carried, said, Except.isOk, Except.toBool]
  | randomUnread other | randomWithoutContext other | randomAnswered _ other | acceptUnread other
  | acceptWithoutContext other | acceptUnparsed other | accepted other | exampleUnread other
  | exampleAnswered _ other => simp [asks, answers, other]
  | ignored other unknown =>
    simp only [List.mem_cons, not_or] at unknown
    simp [asks, answers, other, unknown]

theorem heard?_of_step
    (step : Step (router.withParser call.parser) sessions call.session call.command turn)
    (named : (sessions.session call.session).id = call.session)
    (derives : call.parser.OnlyDerives) :
    heard? call.command turn = if router.answers call then spoken? call.command else none := by
  rw [← answered_of_step step named]
  cases step with
  | invalid unnamed => simp [heard?, asks, unnamed]
  | queryAnswered _ isQuery read _ asked parses =>
    have kept := derives _ _ _ parses
    rw [kept, asked]
    simp [heard?, asks, spoken?, isQuery, read, parsedResponse, Example.ofUtterance, Except.isOk,
      Except.toBool, Except.toOption]
  | queryUnread isQuery | queryWithoutContext isQuery | queryUnparsed isQuery =>
    simp [heard?, isQuery, Except.isOk, Except.toBool]
  | randomUnread other | randomWithoutContext other | randomAnswered _ other | acceptUnread other
  | acceptWithoutContext other | acceptUnparsed other | accepted other | exampleUnread other
  | exampleAnswered _ other => simp [heard?, asks, other]
  | ignored other unknown =>
    simp only [List.mem_cons, not_or] at unknown
    simp [heard?, asks, other, unknown]

theorem find?_of_step
    (step : Step (router.withParser call.parser) sessions call.session call.command turn)
    (named : sessions.Named) (derives : call.parser.OnlyDerives) (id : String) :
    turn.sessions.find? id =
      if call.session = id then router.remember (sessions.find? id) call
      else sessions.find? id := by
  rw [sessions_of_step step, heard?_of_step step (named.session call.session) derives]
  by_cases own : call.session = id
  · subst own
    by_cases opening : opens call.command = true
    · rw [if_pos opening, if_pos rfl, remember, if_pos opening, StringMap.find?_insert_self]
      rfl
    · rw [if_neg opening, if_pos rfl, remember, if_neg opening]
  · rw [if_neg own]
    split
    · exact sessions.find?_insert_of_ne _ (Ne.symm own)
    · rfl

theorem named_of_step {id : String} {command : Json} (step : Step router sessions id command turn)
    (named : sessions.Named) : turn.sessions.Named := by
  rw [sessions_of_step step]
  split
  · apply named.insert
    rw [Session.id_hear?]
    exact named.session id
  · exact named

end Step

/-! ## Runs -/

variable {σ : Type} [WordSource σ] {router : Router} {calls : List Call}

theorem named_handleCall (router : Router) {state : ServiceState σ} (named : state.sessions.Named)
    (call : Call) : (router.handleCall state call).2.sessions.Named :=
  named_of_step (router.step_handleCall state call) named

theorem find?_handleAll (derives : ∀ call ∈ calls, call.parser.OnlyDerives)
    {state : ServiceState σ} (named : state.sessions.Named) (id : String) :
    (router.handleAll calls state).2.sessions.find? id =
      (calls.filter fun call => call.session = id).foldl router.remember
        (state.sessions.find? id) := by
  induction calls generalizing state with
  | nil => rfl
  | cons call rest induction =>
    have here := derives call List.mem_cons_self
    have step := router.step_handleCall state call
    have others := induction (fun other member => derives other (List.mem_cons_of_mem call member))
      (router.named_handleCall named call)
    rw [handleAll]
    refine others.trans ?_
    rw [sessions_handleCall, find?_of_step step named here]
    by_cases own : call.session = id
    · rw [if_pos own, List.filter_cons_of_pos (by simpa using own), List.foldl_cons]
    · rw [if_neg own, List.filter_cons_of_neg (by simpa using own)]

theorem exists_step_of_mem_handleAll {state : ServiceState σ} (named : state.sessions.Named) :
    ∀ entry ∈ (router.handleAll calls state).1, entry.1 ∈ calls ∧
      ∃ sessions : SessionTable, sessions.Named ∧
        Step (router.withParser entry.1.parser) sessions entry.1.session entry.1.command
          entry.2 := by
  induction calls generalizing state with
  | nil =>
    intro entry member
    cases member
  | cons call rest induction =>
    intro entry member
    rcases List.mem_cons.mp member with equal | member
    · rw [equal]
      exact ⟨List.mem_cons_self, state.sessions, named, router.step_handleCall state call⟩
    · have later := induction (router.named_handleCall named call) entry member
      exact ⟨List.mem_cons_of_mem call later.1, later.2⟩

theorem answered_of_mem_handleAll {state : ServiceState σ} (named : state.sessions.Named) :
    ∀ entry ∈ (router.handleAll calls state).1,
      (asks entry.1.command && entry.2.answer.isOk) = router.answers entry.1 := by
  intro entry member
  rcases (exists_step_of_mem_handleAll named entry member).2 with ⟨sessions, named, step⟩
  exact answered_of_step step (named.session entry.1.session)

/-! ## What is remembered of calls -/

theorem installs?_of_not_opens {command : Json} (closed : opens command = false) :
    router.installs? command = none := by
  unfold opens at closed
  unfold installs?
  split <;> simp_all

theorem exists_request_of_answers {call : Call} (answered : router.answers call = true) :
    ∃ payload request, command? call.command = some ("q", payload) ∧
      QueryPayload.decode payload = .ok request := by
  unfold answers at answered
  split at answered
  · rename_i payload isQuery
    cases read : QueryPayload.decode payload with
    | error fault =>
      rw [read] at answered
      cases answered
    | ok request => exact ⟨payload, request, isQuery, read⟩
  · cases answered

theorem opens_of_answers {call : Call} (answered : router.answers call = true) :
    opens call.command = true := by
  rcases exists_request_of_answers answered with ⟨payload, request, isQuery, read⟩
  simp [opens, isQuery, read, Except.isOk, Except.toBool]

theorem exists_spoken?_of_answers {call : Call} (answered : router.answers call = true) :
    ∃ text, spoken? call.command = some text := by
  rcases exists_request_of_answers answered with ⟨payload, request, isQuery, read⟩
  exact ⟨Text.trim request.utterance, by simp [spoken?, isQuery, read, Except.toOption]⟩

theorem answers_of_not_opens {call : Call} (closed : opens call.command = false) :
    router.answers call = false := by
  apply Bool.eq_false_iff.mpr
  intro answered
  rw [opens_of_answers answered] at closed
  cases closed

def remembering (router : Router) (id : String) (calls : List Call) : Session :=
  let answered := calls.filter router.answers
  { id
    context := (calls.filterMap fun call => router.installs? call.command).getLast?.getD .empty
    queryCount := answered.length
    lastUtterance :=
      ((answered.filterMap fun call => spoken? call.command).filter (· ≠ "")).getLast? }

theorem latest_concat {α β : Type} (pick : α → Option β) (values : List α) (value : α) :
    ((values ++ [value]).filterMap pick).getLast? =
      (pick value).or (values.filterMap pick).getLast? := by
  cases picked : pick value <;> simp [picked]

theorem remembering_concat (id : String) (calls : List Call) (call : Call) :
    router.remembering id (calls ++ [call]) =
      ((router.remembering id calls).install (router.installs? call.command)).hear?
        (if router.answers call then spoken? call.command else none) := by
  have installed : ((router.installs? call.command).or
      (calls.filterMap fun call => router.installs? call.command).getLast?).getD .empty =
      (router.installs? call.command).getD
        ((calls.filterMap fun call => router.installs? call.command).getLast?.getD .empty) := by
    cases router.installs? call.command <;> rfl
  unfold remembering
  rw [latest_concat, installed, List.filter_append]
  by_cases answered : router.answers call = true
  · rcases exists_spoken?_of_answers answered with ⟨text, said⟩
    by_cases empty : text = "" <;>
      simp [answered, said, empty, Session.install, Session.hear?, Session.hear]
  · simp [answered, Session.install, Session.hear?]

theorem remembering_of_not_opens (id : String)
    (closed : ∀ call ∈ calls, opens call.command = false) :
    router.remembering id calls = { id } := by
  have nothing : (calls.filterMap fun call => router.installs? call.command) = [] := by
    apply List.filterMap_eq_nil_iff.mpr
    exact fun call member => installs?_of_not_opens (closed call member)
  have silent : calls.filter router.answers = [] := by
    apply List.filter_eq_nil_iff.mpr
    intro call member
    rw [answers_of_not_opens (closed call member)]
    exact Bool.false_ne_true
  rw [remembering, nothing, silent]
  rfl

theorem foldl_remember {id : String} (own : ∀ call ∈ calls, call.session = id) :
    calls.foldl router.remember none =
      if calls.any fun call => opens call.command then some (router.remembering id calls)
      else none := by
  -- From the end: the latest call decides what is latest, if it has anything to say.
  induction calls using List.reverseRecOn with
  | nil => rfl
  | append_singleton calls call induction =>
    have before := induction fun other member => own other (List.mem_append_left _ member)
    have here : call.session = id := own call (by simp)
    have known : (calls.foldl router.remember none).getD { id := call.session } =
        router.remembering id calls := by
      rw [before, here]
      split
      · rfl
      · rename_i closed
        rw [remembering_of_not_opens id (by simpa using closed)]
        rfl
    rw [List.foldl_append, List.foldl_cons, List.foldl_nil, remember, known, remembering_concat,
      List.any_append]
    by_cases opening : opens call.command = true
    · simp [opening]
    · rw [if_neg opening, before, installs?_of_not_opens (by simpa using opening),
        answers_of_not_opens (by simpa using opening)]
      simp [opening, Session.install, Session.hear?]

theorem find?_handleAll_empty (derives : ∀ call ∈ calls, call.parser.OnlyDerives) (source : σ)
    (id : String) :
    let own := calls.filter fun call => call.session = id
    (router.handleAll calls ⟨StringMap.empty, source⟩).2.sessions.find? id =
      if own.any fun call => opens call.command then some (router.remembering id own)
      else none := by
  intro own
  rw [find?_handleAll derives SessionTable.named_empty id]
  apply foldl_remember
  intro call member
  simpa using (List.mem_filter.mp member).2

/-! ## What is remembered of a run -/

theorem sessionOf?_eq (id : String) {history : List (Call × Turn)}
    (agree : ∀ entry ∈ history,
      (asks entry.1.command && entry.2.answer.isOk) = router.answers entry.1) :
    let own := (history.map (·.1)).filter fun call => call.session = id
    router.sessionOf? id history =
      if own.any fun call => opens call.command then some (router.remembering id own)
      else none := by
  intro own
  have calls : own = (history.filter fun entry => entry.1.session = id).map (·.1) := by
    simp only [own, List.filter_map]
    rfl
  have answered : own.filter router.answers =
      ((history.filter fun entry => entry.1.session = id).filter fun entry =>
        asks entry.1.command && entry.2.answer.isOk).map (·.1) := by
    rw [calls, List.filter_map]
    congr 1
    apply List.filter_congr
    intro entry member
    exact (agree entry (List.mem_filter.mp member).1).symm
  unfold sessionOf? remembering
  simp only [answered, List.length_map, List.filterMap_map]
  simp only [calls, List.any_map, List.filterMap_map]
  rfl

def ownOf (id : String) (calls : List Call) : List (Json × Parser) :=
  (calls.filter fun call => decide (call.session = id) && concerns call.command).map fun call =>
    (call.command, call.parser)

theorem concerns_of_opens {command : Json} (opening : opens command = true) :
    concerns command = true := by
  unfold opens at opening
  unfold concerns
  split at opening <;> simp_all

theorem remember_of_not_concerns (before : Option Session) {call : Call}
    (foreign : concerns call.command = false) : router.remember before call = before := by
  unfold remember
  rw [if_neg]
  intro opening
  rw [concerns_of_opens opening] at foreign
  cases foreign

theorem foldl_remember_own (id : String) (before : Option Session) :
    (calls.filter fun call => call.session = id).foldl router.remember before =
      (ownOf id calls).foldl (fun before sent => router.remember before ⟨"", id, sent.1, sent.2⟩)
        before := by
  induction calls generalizing before with
  | nil => rfl
  | cons call rest induction =>
    rw [ownOf] at induction ⊢
    by_cases own : call.session = id
    · rw [List.filter_cons_of_pos (by simpa using own), List.foldl_cons, induction]
      cases concerned : concerns call.command with
      | true =>
        rw [List.filter_cons_of_pos (by simp [own, concerned]), List.map_cons, List.foldl_cons,
          ← own]
        rfl
      | false =>
        rw [List.filter_cons_of_neg (by simp [concerned]),
          remember_of_not_concerns before concerned]
    · rw [List.filter_cons_of_neg (by simpa using own),
        List.filter_cons_of_neg (by simp [own]), induction]

end Router

namespace Service

open Router

variable {σ : Type} [WordSource σ]

/-- After any run whose commands can be logged, a session is what its own calls and their turns
make it. Runs in which it sends the same to the same parsers leave it the same session: what other
sessions send, and commands that it cannot remember anything of, have no effect on it. -/
theorem session_of_history (service : Service) {calls : List Call} (source : σ) {tree : FileTree}
    (derives : ∀ call ∈ calls, call.parser.OnlyDerives) (logged : service.LogsAll calls tree)
    (id : String) :
    let run := (service.handleAll calls ⟨StringMap.empty, source⟩ tree).1
    run.1.map (·.1) = calls ∧
      run.2.sessions.find? id = service.router.sessionOf? id run.1 ∧
      ∀ (others : List Call) (otherSource : σ) (otherTree : FileTree),
        (∀ call ∈ others, call.parser.OnlyDerives) → service.LogsAll others otherTree →
        ownOf id others = ownOf id calls →
        (service.handleAll others ⟨StringMap.empty, otherSource⟩ otherTree).1.2.sessions.find? id =
          run.2.sessions.find? id := by
  intro run
  have unlogged : run = service.router.handleAll calls ⟨StringMap.empty, source⟩ :=
    handleAll_of_logsAll logged _
  have calledAll : run.1.map (·.1) = calls := by
    rw [unlogged, map_fst_handleAll]
  refine ⟨calledAll, ?_, ?_⟩
  · have agree : ∀ entry ∈ run.1,
        (asks entry.1.command && entry.2.answer.isOk) = service.router.answers entry.1 := by
      rw [unlogged]
      exact answered_of_mem_handleAll SessionTable.named_empty
    rw [sessionOf?_eq id agree, calledAll, unlogged]
    exact find?_handleAll_empty derives source id
  · intro others otherSource otherTree otherDerives otherLogged same
    rw [handleAll_of_logsAll otherLogged, unlogged,
      find?_handleAll otherDerives SessionTable.named_empty,
      find?_handleAll derives SessionTable.named_empty, foldl_remember_own, foldl_remember_own,
      same]

def twoSpeakers : List Call := [
  ⟨"", "s1", barQuestion, .silent⟩,
  ⟨"", "s2", .array [.string "reject"], .silent⟩,
  ⟨"", "s1", .array [.string "q"], .silent⟩]

theorem session_of_two_speakers :
    let service : Service := { router := bare }
    let after := (service.handleAll twoSpeakers ⟨StringMap.empty, (⟨0⟩ : MixedCounter)⟩
      (.empty "/")).1.2.sessions
    (∀ call ∈ twoSpeakers, call.parser.OnlyDerives) ∧
      service.LogsAll twoSpeakers (.empty "/") ∧
      after.find? "s1" = some {
        id := "s1"
        context := ⟨.ofMembers [("mark", .string "bar")], .empty⟩
        queryCount := 1
        lastUtterance := some "bigger" } ∧
      after.find? "s2" = none := by
  intro service after
  have derives : ∀ call ∈ twoSpeakers, call.parser.OnlyDerives := by
    simp [twoSpeakers, Parser.onlyDerives_silent]
  have logged : service.LogsAll twoSpeakers (.empty "/") := logsAll_of_no_log rfl _ _
  refine ⟨derives, logged, ?_, ?_⟩
  · rw [(session_of_history service (⟨0⟩ : MixedCounter) derives logged "s1").2.1]
    decide +kernel
  · rw [(session_of_history service (⟨0⟩ : MixedCounter) derives logged "s2").2.1]
    decide +kernel

end Service

end ChartDialogue
