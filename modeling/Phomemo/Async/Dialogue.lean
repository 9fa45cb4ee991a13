import Mathlib.Data.List.Range
import Phomemo.Async.Machine

/-!
# Requests and replies without numbers

A client and a server share two channels that keep their order.  The client sends a request only
when it waits for no reply, and the server answers every request once.  Besides there are asides,
which the server acknowledges, and messages the server pushes; the client passes both over.  Replies
need no number then: each call returns the reply to its own request.  A call that waits for an
acknowledgement never returns.
-/

namespace Phomemo.Async

variable {μ ρ α β κ ω : Type}

/-- The two sides of a dialogue: requests `ρ`, what the server answers `α` or pushes `β`, contents
`κ` of its messages, the memory `μ` of the client and its results `ω`. -/
structure Dialogue (μ ρ α β κ ω : Type) where
  initial : μ
  /-- What the client remembers when it sends a request. -/
  remember : ρ → μ → μ
  /-- What it remembers when it sends an aside. -/
  aside : μ → μ
  /-- The result it makes of a message, `none` for one it passes over. -/
  receive : μ → κ → Option ω
  /-- The result it makes of a reply. -/
  result : κ → ω
  /-- The content of a reply. -/
  replyOf : ρ → α → κ
  acknowledgement : κ
  /-- The content of a pushed message. -/
  pushed : β → κ

/-- A message to the server, a request with the number of its call. -/
inductive Outgoing where
  | request (call : Nat)
  | aside
  deriving DecidableEq, Repr

/-- A message to the client, with what it is to the server. -/
inductive Incoming (κ : Type) where
  | reply (call : Nat) (content : κ)
  | acknowledgement (content : κ)
  | pushed (content : κ)

/-- What the client reads of a message. -/
def Incoming.content : Incoming κ → κ
  | reply _ content => content
  | acknowledgement content => content
  | pushed content => content

/-- What a call waits for. -/
inductive Awaited where
  | reply
  | acknowledgement
  deriving DecidableEq, Repr

/-- The client, the server and the channels; what was asked, answered and returned so far. -/
structure Talk (μ ρ κ ω : Type) where
  memory : μ
  waiting : Option Awaited := none
  toServer : List Outgoing := []
  /-- Requests the server has read and not answered. -/
  owed : List Nat := []
  /-- Asides the server has read and not acknowledged. -/
  unacknowledged : Nat := 0
  toClient : List (Incoming κ) := []
  asked : List ρ := []
  /-- The replies, each with the number of its call. -/
  answered : List (Nat × κ) := []
  returned : List ω := []

/-- What happens next between client and server. -/
inductive TalkAction (ρ α β : Type) where
  /-- A call sends its request. -/
  | call (request : ρ)
  /-- A call sends an aside and waits for its acknowledgement. -/
  | callAside
  /-- An aside is sent, nobody waits for its acknowledgement. -/
  | aside
  /-- The waiting call reads a message. -/
  | read
  /-- The server reads a message. -/
  | serve
  | answer (call : Nat) (data : α)
  | acknowledge
  | push (data : β)

namespace Dialogue

/-- Nothing has been said yet. -/
def start (d : Dialogue μ ρ α β κ ω) : Talk μ ρ κ ω where
  memory := d.initial

/-- One step; `none` when the action cannot happen. -/
def step (d : Dialogue μ ρ α β κ ω) (s : Talk μ ρ κ ω) :
    TalkAction ρ α β → Option (Talk μ ρ κ ω)
  | .call request =>
      if s.waiting.isNone then
        some
          { s with
            memory := d.remember request s.memory
            waiting := some .reply
            toServer := s.toServer ++ [.request s.asked.length]
            asked := s.asked ++ [request] }
      else none
  | .callAside =>
      if s.waiting.isNone then
        some
          { s with
            memory := d.aside s.memory
            waiting := some .acknowledgement
            toServer := s.toServer ++ [.aside] }
      else none
  | .aside =>
      if s.waiting = some .acknowledgement then none
      else some { s with memory := d.aside s.memory, toServer := s.toServer ++ [.aside] }
  | .read =>
      match s.waiting, s.toClient with
      | some _, message :: rest =>
          match d.receive s.memory message.content with
          | some result =>
              some
                { s with toClient := rest, waiting := none, returned := s.returned ++ [result] }
          | none => some { s with toClient := rest }
      | _, _ => none
  | .serve =>
      match s.toServer with
      | [] => none
      | .request call :: rest => some { s with toServer := rest, owed := s.owed ++ [call] }
      | .aside :: rest => some { s with toServer := rest, unacknowledged := s.unacknowledged + 1 }
  | .answer call data =>
      match s.asked[call]? with
      | none => none
      | some request =>
          if call ∈ s.owed then
            some
              { s with
                owed := s.owed.erase call
                toClient := s.toClient ++ [.reply call (d.replyOf request data)]
                answered := s.answered ++ [(call, d.replyOf request data)] }
          else none
  | .acknowledge =>
      if 0 < s.unacknowledged then
        some
          { s with
            unacknowledged := s.unacknowledged - 1
            toClient := s.toClient ++ [.acknowledgement d.acknowledgement] }
      else none
  | .push data => some { s with toClient := s.toClient ++ [.pushed (d.pushed data)] }

/-- What the client remembers lets it tell replies from all else. -/
structure Lawful (d : Dialogue μ ρ α β κ ω) (safe : μ → Prop) : Prop where
  initial : safe d.initial
  remember : ∀ request memory, safe memory → safe (d.remember request memory)
  aside : ∀ memory, safe memory → safe (d.aside memory)
  reply : ∀ memory request data, safe memory →
    d.receive memory (d.replyOf request data) = some (d.result (d.replyOf request data))
  acknowledgement : ∀ memory, safe memory → d.receive memory d.acknowledgement = none
  pushed : ∀ memory data, safe memory → d.receive memory (d.pushed data) = none

end Dialogue

namespace Talk

/-- The requests on their way. -/
def requests (s : Talk μ ρ κ ω) : List Nat :=
  s.toServer.filterMap fun message =>
    match message with
    | .request call => some call
    | .aside => none

/-- The reply a message is. -/
def replyIn : Incoming κ → Option (Nat × κ)
  | .reply call content => some (call, content)
  | _ => none

/-- The replies on their way. -/
def replies (s : Talk μ ρ κ ω) : List (Nat × κ) := s.toClient.filterMap replyIn

/-- The asides that wait for their acknowledgement. -/
def asidesOpen (s : Talk μ ρ κ ω) : Nat := s.toServer.count .aside + s.unacknowledged

end Talk

namespace Dialogue

variable {d : Dialogue μ ρ α β κ ω} {safe : μ → Prop} {s next : Talk μ ρ κ ω}
  {done : List (Nat × κ)}

/-- Where the client stands when the calls in `done` have returned. -/
inductive Standing (s : Talk μ ρ κ ω) (done : List (Nat × κ)) : Prop where
  /-- No call waits for a reply. -/
  | quiet (free : s.waiting ≠ some .reply) (asked : s.asked.length = done.length)
      (answered : s.answered = done) (up : s.requests ++ s.owed = []) (down : s.replies = [])
  /-- A call waits and its request is not answered. -/
  | asked (waits : s.waiting = some .reply) (asked : s.asked.length = done.length + 1)
      (answered : s.answered = done) (up : s.requests ++ s.owed = [done.length])
      (down : s.replies = [])
  /-- A call waits and its reply is on its way. -/
  | answered (content : κ) (waits : s.waiting = some .reply)
      (asked : s.asked.length = done.length + 1)
      (answered : s.answered = done ++ [(done.length, content)]) (up : s.requests ++ s.owed = [])
      (down : s.replies = [(done.length, content)])

/-- What touches neither a call nor a request nor a reply leaves the client where it stands. -/
theorem Standing.congr (standing : Standing s done) (waiting : next.waiting = s.waiting)
    (asked : next.asked = s.asked) (answered : next.answered = s.answered)
    (up : next.requests ++ next.owed = s.requests ++ s.owed) (down : next.replies = s.replies) :
    Standing next done := by
  cases standing with
  | quiet free asked' answered' up' down' =>
      exact .quiet (waiting ▸ free) (asked ▸ asked') (answered.trans answered') (up.trans up')
        (down.trans down')
  | asked waits asked' answered' up' down' =>
      exact .asked (waiting.trans waits) (asked ▸ asked') (answered.trans answered') (up.trans up')
        (down.trans down')
  | answered content waits asked' answered' up' down' =>
      exact .answered content (waiting.trans waits) (asked ▸ asked') (answered.trans answered')
        (up.trans up') (down.trans down')

/-- A message the client reads as what it is. -/
def Legible (d : Dialogue μ ρ α β κ ω) (safe : μ → Prop) (message : Incoming κ) : Prop :=
  ∀ memory, safe memory →
    match message with
    | .reply _ content => d.receive memory content = some (d.result content)
    | .acknowledgement content => d.receive memory content = none
    | .pushed content => d.receive memory content = none

/-- The invariant: each call that has returned gave what its own reply makes. -/
structure Paired (d : Dialogue μ ρ α β κ ω) (safe : μ → Prop) (s : Talk μ ρ κ ω)
    (done : List (Nat × κ)) : Prop where
  memory : safe s.memory
  legible : ∀ message ∈ s.toClient, Legible d safe message
  numbered : done.map Prod.fst = List.range done.length
  returned : s.returned = done.map fun answer => d.result answer.2
  standing : Standing s done

theorem paired_start (lawful : d.Lawful safe) : Paired d safe d.start [] where
  memory := lawful.initial
  legible := by simp [start]
  numbered := rfl
  returned := rfl
  standing := .quiet (by simp [start]) rfl rfl rfl rfl

theorem Paired.call (lawful : d.Lawful safe) (paired : Paired d safe s done) {request : ρ}
    (stepped : d.step s (.call request) = some next) : Paired d safe next done := by
  simp only [step, Option.ite_none_right_eq_some, Option.some.injEq] at stepped
  obtain ⟨free, rfl⟩ := stepped
  refine ⟨lawful.remember _ _ paired.memory, paired.legible, paired.numbered, paired.returned, ?_⟩
  cases paired.standing with
  | asked waits => simp [waits] at free
  | answered content waits => simp [waits] at free
  | quiet _ asked answered up down =>
      obtain ⟨requests, owed⟩ := List.append_eq_nil_iff.mp up
      refine .asked rfl (by simp [asked]) answered ?_ down
      simp only [Talk.requests] at requests ⊢
      simp [requests, owed, asked]

/-- An aside is no request. -/
theorem Paired.aside (lawful : d.Lawful safe) (paired : Paired d safe s done)
    {waiting : Option Awaited} (same : waiting = some .reply ↔ s.waiting = some .reply) :
    Paired d safe
      { s with memory := d.aside s.memory, waiting, toServer := s.toServer ++ [.aside] } done := by
  refine ⟨lawful.aside _ paired.memory, paired.legible, paired.numbered, paired.returned, ?_⟩
  have requests : (s.toServer ++ [Outgoing.aside]).filterMap (fun message =>
      match message with
      | .request call => some call
      | .aside => none) = s.requests := by
    simp [Talk.requests]
  cases paired.standing with
  | quiet free asked answered up down =>
      exact .quiet (fun waits => free (same.mp waits)) asked answered
        (by simpa only [Talk.requests, requests] using up) down
  | asked waits asked answered up down =>
      exact .asked (same.mpr waits) asked answered
        (by simpa only [Talk.requests, requests] using up) down
  | answered content waits asked answered up down =>
      exact .answered content (same.mpr waits) asked answered
        (by simpa only [Talk.requests, requests] using up) down

/-- The server reads the oldest message. -/
theorem Paired.serve (paired : Paired d safe s done) (stepped : d.step s .serve = some next) :
    Paired d safe next done := by
  simp only [step] at stepped
  split at stepped
  · cases stepped
  · rename_i call rest oldest
    obtain rfl := Option.some.inj stepped
    refine ⟨paired.memory, paired.legible, paired.numbered, paired.returned, ?_⟩
    have first : s.requests = call :: rest.filterMap (fun message =>
        match message with
        | .request call => some call
        | .aside => none) := by
      simp [Talk.requests, oldest]
    cases paired.standing with
    | quiet free asked answered up down => simp [first] at up
    | asked waits asked answered up down =>
        simp only [first, List.cons_append, List.cons.injEq, List.append_eq_nil_iff] at up
        obtain ⟨rfl, requests, owed⟩ := up
        exact .asked waits asked answered (by simp [Talk.requests, requests, owed]) down
    | answered content waits asked answered up down => simp [first] at up
  · rename_i rest oldest
    obtain rfl := Option.some.inj stepped
    refine ⟨paired.memory, paired.legible, paired.numbered, paired.returned, ?_⟩
    refine paired.standing.congr rfl rfl rfl ?_ rfl
    simp [Talk.requests, oldest]

/-- The server answers the one request it owes. -/
theorem Paired.answer (lawful : d.Lawful safe) (paired : Paired d safe s done) {call : Nat}
    {data : α} (stepped : d.step s (.answer call data) = some next) : Paired d safe next done := by
  simp only [step] at stepped
  split at stepped
  · cases stepped
  · rename_i request numbered
    simp only [Option.ite_none_right_eq_some, Option.some.injEq] at stepped
    obtain ⟨owes, rfl⟩ := stepped
    cases paired.standing with
    | quiet free asked answered up down => simp [(List.append_eq_nil_iff.mp up).2] at owes
    | answered content waits asked answered up down =>
        simp [(List.append_eq_nil_iff.mp up).2] at owes
    | asked waits asked answered up down =>
        rcases List.append_eq_singleton_iff.mp up with ⟨requests, owed⟩ | ⟨-, owed⟩
        · obtain rfl : call = done.length := by simpa [owed] using owes
          refine ⟨paired.memory, ?_, paired.numbered, paired.returned, ?_⟩
          · intro message member
            rcases List.mem_append.mp member with earlier | last
            · exact paired.legible message earlier
            · obtain rfl := List.mem_singleton.mp last
              exact fun memory known => lawful.reply memory request data known
          · refine .answered (d.replyOf request data) waits asked (by rw [answered]) ?_ ?_
            · simp only [Talk.requests] at requests ⊢
              simp [requests, owed]
            · simp only [Talk.replies] at down ⊢
              simp [down, Talk.replyIn]
        · simp [owed] at owes

/-- A message that is no reply changes nothing. -/
theorem Paired.push (paired : Paired d safe s done) (message : Incoming κ)
    (other : Talk.replyIn message = none) (legible : Legible d safe message)
    (unacknowledged : Nat) :
    Paired d safe { s with unacknowledged, toClient := s.toClient ++ [message] } done := by
  refine ⟨paired.memory, ?_, paired.numbered, paired.returned, ?_⟩
  · intro message' member
    rcases List.mem_append.mp member with earlier | last
    · exact paired.legible message' earlier
    · obtain rfl := List.mem_singleton.mp last
      exact legible
  · refine paired.standing.congr rfl rfl rfl rfl ?_
    simp [Talk.replies, other]

/-- What reading the oldest message does: a reply is returned, all else passed over. -/
theorem read_cons (paired : Paired d safe s done) {message : Incoming κ} {rest : List (Incoming κ)}
    (oldest : s.toClient = message :: rest) (waits : s.waiting.isSome) :
    d.step s .read =
      match Talk.replyIn message with
      | some (_, content) =>
          some
            { s with
              toClient := rest
              waiting := none
              returned := s.returned ++ [d.result content] }
      | none => some { s with toClient := rest } := by
  obtain ⟨awaited, waits⟩ := Option.isSome_iff_exists.mp waits
  have legible := paired.legible message (by simp [oldest]) s.memory paired.memory
  cases message with
  | reply call content => simp [step, waits, oldest, Incoming.content, legible, Talk.replyIn]
  | acknowledgement content => simp [step, waits, oldest, Incoming.content, legible, Talk.replyIn]
  | pushed content => simp [step, waits, oldest, Incoming.content, legible, Talk.replyIn]

/-- Passing over a message that is no reply. -/
theorem Paired.pass (paired : Paired d safe s done) {message : Incoming κ}
    {rest : List (Incoming κ)} (oldest : s.toClient = message :: rest)
    (other : Talk.replyIn message = none) : Paired d safe { s with toClient := rest } done := by
  refine ⟨paired.memory, ?_, paired.numbered, paired.returned, ?_⟩
  · exact fun message' member => paired.legible message' (by simp [oldest, member])
  · refine paired.standing.congr rfl rfl rfl rfl ?_
    simp [Talk.replies, oldest, other]

/-- The waiting call reads the oldest message. -/
theorem Paired.read (paired : Paired d safe s done) (stepped : d.step s .read = some next) :
    ∃ done, Paired d safe next done := by
  cases waits : s.waiting with
  | none => simp [step, waits] at stepped
  | some awaited =>
      cases oldest : s.toClient with
      | nil => simp [step, waits, oldest] at stepped
      | cons message rest =>
          rw [read_cons paired oldest (by simp [waits])] at stepped
          cases isReply : Talk.replyIn message with
          | none =>
              simp only [isReply, Option.some.injEq] at stepped
              subst stepped
              exact ⟨done, paired.pass oldest isReply⟩
          | some reply =>
              obtain ⟨call, content⟩ := reply
              simp only [isReply, Option.some.injEq] at stepped
              subst stepped
              have first : s.replies = (call, content) :: rest.filterMap Talk.replyIn := by
                simp [Talk.replies, oldest, isReply]
              cases paired.standing with
              | quiet free asked answered up down => simp [first] at down
              | asked waits asked answered up down => simp [first] at down
              | answered content' waits asked answered up down =>
                  simp only [first, List.cons.injEq, Prod.mk.injEq] at down
                  obtain ⟨⟨rfl, rfl⟩, down⟩ := down
                  refine ⟨done ++ [(done.length, content)], paired.memory, ?_, ?_, ?_, ?_⟩
                  · exact fun message' member => paired.legible message' (by simp [oldest, member])
                  · rw [List.map_append, paired.numbered, List.length_append,
                      List.length_singleton, List.range_succ]
                    rfl
                  · simp [paired.returned]
                  · exact .quiet (by simp) (by simp [asked]) answered up down

theorem paired_step (lawful : d.Lawful safe) (paired : Paired d safe s done)
    {action : TalkAction ρ α β} (stepped : d.step s action = some next) :
    ∃ done, Paired d safe next done := by
  cases action with
  | call request => exact ⟨done, paired.call lawful stepped⟩
  | callAside =>
      simp only [step, Option.ite_none_right_eq_some, Option.some.injEq] at stepped
      obtain ⟨free, rfl⟩ := stepped
      have idle : s.waiting = none := Option.isNone_iff_eq_none.mp free
      exact ⟨done, paired.aside lawful (by simp [idle])⟩
  | aside =>
      simp only [step, Option.ite_none_left_eq_some, Option.some.injEq] at stepped
      obtain ⟨-, rfl⟩ := stepped
      exact ⟨done, paired.aside lawful Iff.rfl⟩
  | read => exact paired.read stepped
  | serve => exact ⟨done, paired.serve stepped⟩
  | answer call data => exact ⟨done, paired.answer lawful stepped⟩
  | acknowledge =>
      simp only [step, Option.ite_none_right_eq_some, Option.some.injEq] at stepped
      obtain ⟨-, rfl⟩ := stepped
      exact ⟨done, paired.push (.acknowledgement d.acknowledgement) rfl lawful.acknowledgement _⟩
  | push data =>
      obtain rfl := Option.some.inj stepped
      exact ⟨done, paired.push (.pushed (d.pushed data)) rfl
        (fun memory => lawful.pushed memory data) _⟩

theorem paired_runs (lawful : d.Lawful safe) {actions : List (TalkAction ρ α β)}
    (ran : runs d.step d.start actions = some s) : ∃ done, Paired d safe s done := by
  let inv (_ : List (TalkAction ρ α β)) (s : Talk μ ρ κ ω) : Prop := ∃ done, Paired d safe s done
  refine @runs_induction _ _ _ _ inv ⟨[], paired_start lawful⟩ ?_ _ _ ran
  rintro past state action next ⟨done, paired⟩ stepped
  exact paired_step lawful paired stepped

/-- A waiting call reads on until its reply comes, and returns what that makes. -/
theorem reads_reply (channel : List (Incoming κ)) (here : s.toClient = channel)
    (paired : Paired d safe s done) (waits : s.waiting.isSome) {call : Nat} {content : κ}
    (down : s.replies = [(call, content)]) :
    ∃ rounds final, runs d.step s (List.replicate rounds .read) = some final ∧
      final.waiting = none ∧ final.returned = s.returned ++ [d.result content] := by
  induction channel generalizing s with
  | nil => simp [Talk.replies, here] at down
  | cons message rest ih =>
      have read := read_cons paired here waits
      cases isReply : Talk.replyIn message with
      | some reply =>
          obtain ⟨number, first⟩ := reply
          simp only [Talk.replies, here, List.filterMap_cons, isReply, List.cons.injEq,
            Prod.mk.injEq] at down
          obtain ⟨⟨-, rfl⟩, -⟩ := down
          simp only [isReply] at read
          exact ⟨1, _, by simpa [runs] using read, rfl, rfl⟩
      | none =>
          simp only [isReply] at read
          have same : Talk.replies { s with toClient := rest } = [(call, content)] := by
            simpa [Talk.replies, here, isReply] using down
          obtain ⟨rounds, final, ran, idle, returned⟩ :=
            @ih { s with toClient := rest } rfl (paired.pass here isReply) waits same
          refine ⟨rounds + 1, final, ?_, idle, returned⟩
          rw [List.replicate_succ]
          simpa [runs, read] using ran

/-- A call waits for an acknowledgement as soon as it is made, and from then on. -/
theorem waits_step (paired : Paired d safe s done) {action : TalkAction ρ α β}
    (stepped : d.step s action = some next) :
    next.waiting = some .acknowledgement ↔
      s.waiting = some .acknowledgement ∨ action = .callAside := by
  cases action with
  | call request =>
      simp only [step, Option.ite_none_right_eq_some, Option.some.injEq] at stepped
      obtain ⟨free, rfl⟩ := stepped
      simp [Option.isNone_iff_eq_none.mp free]
  | callAside =>
      simp only [step, Option.ite_none_right_eq_some, Option.some.injEq] at stepped
      obtain ⟨-, rfl⟩ := stepped
      simp
  | aside =>
      simp only [step, Option.ite_none_left_eq_some, Option.some.injEq] at stepped
      obtain ⟨-, rfl⟩ := stepped
      simp
  | read =>
      cases waits : s.waiting with
      | none => simp [step, waits] at stepped
      | some awaited =>
          cases oldest : s.toClient with
          | nil => simp [step, waits, oldest] at stepped
          | cons message rest =>
              rw [read_cons paired oldest (by simp [waits])] at stepped
              cases isReply : Talk.replyIn message with
              | none =>
                  simp only [isReply, Option.some.injEq] at stepped
                  subst stepped
                  simp [waits]
              | some reply =>
                  -- A reply is on its way only while a call waits for one.
                  simp only [isReply, Option.some.injEq] at stepped
                  subst stepped
                  cases paired.standing with
                  | quiet free asked answered up down =>
                      simp [Talk.replies, oldest, isReply] at down
                  | asked reply => simp [← waits, reply]
                  | answered content reply => simp [← waits, reply]
  | serve =>
      simp only [step] at stepped
      split at stepped
      · cases stepped
      · obtain rfl := Option.some.inj stepped
        simp
      · obtain rfl := Option.some.inj stepped
        simp
  | answer call data =>
      simp only [step] at stepped
      split at stepped
      · cases stepped
      · simp only [Option.ite_none_right_eq_some, Option.some.injEq] at stepped
        obtain ⟨-, rfl⟩ := stepped
        simp
  | acknowledge =>
      simp only [step, Option.ite_none_right_eq_some, Option.some.injEq] at stepped
      obtain ⟨-, rfl⟩ := stepped
      simp
  | push data =>
      obtain rfl := Option.some.inj stepped
      simp

/-- A call that waits for an acknowledgement waits in every later state. -/
theorem aside_call_waits (lawful : d.Lawful safe) (paired : Paired d safe s done)
    (waits : s.waiting = some .acknowledgement) {actions : List (TalkAction ρ α β)}
    (ran : runs d.step s actions = some next) : next.waiting = some .acknowledgement := by
  let inv (_ : List (TalkAction ρ α β)) (s : Talk μ ρ κ ω) : Prop :=
    (∃ done, Paired d safe s done) ∧ s.waiting = some .acknowledgement
  suffices inv actions next from this.2
  refine @runs_induction _ _ _ _ inv ⟨⟨done, paired⟩, waits⟩ ?_ _ _ ran
  rintro past state action next ⟨⟨done, paired⟩, waits⟩ stepped
  exact ⟨paired_step lawful paired stepped, (waits_step paired stepped).mpr (.inl waits)⟩

/-- A call waits for an acknowledgement exactly when one was ever made so. -/
theorem callAside_mem_iff (lawful : d.Lawful safe) {actions : List (TalkAction ρ α β)}
    (ran : runs d.step d.start actions = some s) :
    TalkAction.callAside ∈ actions ↔ s.waiting = some .acknowledgement := by
  induction actions using List.reverseRecOn generalizing s with
  | nil =>
      obtain rfl := Option.some.inj ran
      simp [start]
  | append_singleton actions action ih =>
      rw [runs_concat] at ran
      obtain ⟨state, before, stepped⟩ := Option.bind_eq_some_iff.mp ran
      obtain ⟨done, paired⟩ := paired_runs lawful before
      rw [List.mem_append, List.mem_singleton, ih before, waits_step paired stepped]
      exact or_congr_right eq_comm

/-- Every call returns, or has returned, from what the server sent it.  Reply number `n` is the one
to call number `n`, and what the calls returned is what these replies make, in order.  A waiting
call whose reply or acknowledgement has been sent returns by reading on. -/
structure ReturnsOwn (d : Dialogue μ ρ α β κ ω) (s : Talk μ ρ κ ω) : Prop where
  numbered : s.answered.map Prod.fst = List.range s.answered.length
  returned : s.returned =
    (s.answered.take s.returned.length).map fun answer => d.result answer.2
  idle : s.waiting ≠ some .reply →
    s.returned.length = s.asked.length ∧ s.answered.length = s.asked.length
  reply : s.waiting = some .reply → s.asked.length = s.returned.length + 1 ∧
    (s.answered.length = s.returned.length ∨
      ∃ content, s.answered.drop s.returned.length = [(s.returned.length, content)] ∧
        ∃ rounds final, runs d.step s (List.replicate rounds .read) = some final ∧
          final.waiting = none ∧ final.returned = s.returned ++ [d.result content])
  acknowledged : s.waiting = some .acknowledgement → s.asidesOpen = 0 →
    ∃ rounds final, runs d.step s (List.replicate rounds .read) = some final ∧
      final.waiting = none

/-- Every call returns from what the server sent it, but for a call that waits for an
acknowledgement the server has sent. -/
theorem returnsOwn_iff (lawful : d.Lawful safe) {actions : List (TalkAction ρ α β)}
    (ran : runs d.step d.start actions = some s) :
    d.ReturnsOwn s ↔ ¬(s.waiting = some .acknowledgement ∧ s.asidesOpen = 0) := by
  obtain ⟨done, paired⟩ := paired_runs lawful ran
  have count : s.returned.length = done.length := by simp [paired.returned]
  constructor
  · rintro own ⟨waits, sent⟩
    obtain ⟨rounds, final, reading, free⟩ := own.acknowledged waits sent
    have still := aside_call_waits lawful paired waits reading
    simp [free] at still
  · intro unsent
    cases paired.standing with
    | quiet free asked answered up down =>
        refine ⟨by rw [answered, paired.numbered], ?_, fun _ => ?_, fun waits => absurd waits free,
          fun waits sent => absurd ⟨waits, sent⟩ unsent⟩
        · rw [count, answered, List.take_length, paired.returned]
        · exact ⟨by rw [count, asked], by rw [answered, asked]⟩
    | asked waits asked answered up down =>
        refine ⟨by rw [answered, paired.numbered], ?_, fun free => absurd waits free, fun _ => ?_,
          fun other => by simp [waits] at other⟩
        · rw [count, answered, List.take_length, paired.returned]
        · exact ⟨by rw [count, asked], .inl (by rw [count, answered])⟩
    | answered content waits asked answered up down =>
        obtain ⟨rounds, final, reading, idle, returned⟩ :=
          reads_reply s.toClient rfl paired (by simp [waits]) down
        refine ⟨?_, ?_, fun free => absurd waits free, fun _ => ?_,
          fun other => by simp [waits] at other⟩
        · rw [answered, List.map_append, paired.numbered, List.length_append,
            List.length_singleton, List.range_succ]
          rfl
        · rw [count, answered, List.take_left, paired.returned]
        · refine ⟨by rw [count, asked], .inr ⟨content, ?_, rounds, final, reading, idle, returned⟩⟩
          rw [count, answered, List.drop_left]

end Dialogue

end Phomemo.Async
