import WorkflowEngine.Execution.Start

/-!
# Histories of programs

What a program asked and was told, as a list of exchanges.  A program is
followed through any answers at all, so whatever holds of all its histories
holds whatever handlers, stores, clocks and callers do.
-/

namespace WorkflowEngine

/-- A request with the answer that it got. -/
structure Exchange where
  request : Request
  answer : request.Answer

/-- Exchanges in the order in which they took place. -/
abbrev History := List Exchange

namespace Program

variable {α β : Type}

/-- Some exchanges take a program to what is left of it. -/
inductive Reaches : Program α → History → Program α → Prop
  | here (program : Program α) : Reaches program [] program
  | ask
      {request : Request}
      {next : request.Answer → Program α}
      {answer : request.Answer}
      {history : History}
      {rest : Program α} :
      Reaches (next answer) history rest →
      Reaches (.ask request next) (⟨request, answer⟩ :: history) rest

/-- Some exchanges take a program to a value. -/
def Ends (program : Program α) (history : History) (value : α) : Prop :=
  program.Reaches history (.done value)

/-- What is left of a program may be followed on. -/
theorem Reaches.trans
    {program middle last : Program α}
    {first rest : History}
    (begun : program.Reaches first middle)
    (continued : middle.Reaches rest last) :
    program.Reaches (first ++ rest) last := by
  induction begun with
  | here => exact continued
  | ask _ inductionHypothesis => exact .ask (inductionHypothesis continued)

/-- What is left of a program comes before what follows the program. -/
theorem Reaches.bind
    {program last : Program α}
    {history : History}
    (reaches : program.Reaches history last)
    (next : α → Program β) :
    (program >>= next).Reaches history (last >>= next) := by
  induction reaches with
  | here => exact .here _
  | ask _ inductionHypothesis => exact .ask inductionHypothesis

/-- A program that is done asks for nothing. -/
theorem Ends.of_done
    {value result : α}
    {history : History}
    (ends : (Program.done value).Ends history result) :
    history = [] ∧ result = value := by
  cases ends
  exact ⟨rfl, rfl⟩

/-- A request is answered before a program goes on. -/
theorem Ends.of_request
    {request : Request}
    {next : request.Answer → Program α}
    {history : History}
    {result : α}
    (ends : (Program.request request >>= next).Ends history result) :
    ∃ answer rest, history = ⟨request, answer⟩ :: rest ∧ (next answer).Ends rest result := by
  cases ends with
  | ask continued => exact ⟨_, _, rfl, continued⟩

/-- A program ends before the one that follows it begins. -/
theorem Ends.of_bind
    {program : Program α}
    {next : α → Program β}
    {history : History}
    {result : β}
    (ends : (program >>= next).Ends history result) :
    ∃ value first rest, history = first ++ rest ∧ program.Ends first value ∧
      (next value).Ends rest result := by
  induction program generalizing history with
  | done value => exact ⟨value, [], history, rfl, .here _, ends⟩
  | ask request rest inductionHypothesis =>
    cases ends with
    | ask continued =>
      obtain ⟨value, first, last, rfl, ends, continued⟩ := inductionHypothesis _ continued
      exact ⟨value, _, last, rfl, .ask ends, continued⟩

/-- What follows a program is reached through an end of it. -/
theorem Ends.bind
    {program : Program α}
    {next : α → Program β}
    {last : Program β}
    {first rest : History}
    {value : α}
    (ends : program.Ends first value)
    (continued : (next value).Reaches rest last) :
    (program >>= next).Reaches (first ++ rest) last := by
  induction program generalizing first with
  | done other =>
    obtain ⟨rfl, rfl⟩ := ends.of_done
    exact continued
  | ask request rest inductionHypothesis =>
    cases ends with
    | ask ends => exact .ask (inductionHypothesis _ ends)

end Program

/-- How surroundings answer that never stand in the way: time stands still, no
signal comes, everything is accepted, and handlers give some replies in turn. -/
def Request.calmAnswer (replies : List Reply) :
    (request : Request) → request.Answer × List Reply
  | .findWorkflow _ => (none, replies)
  | .register .. => (.ok { channel := 0 }, replies)
  | .signal listener => ((.run, listener), replies)
  | .listen listener => (.news .run listener, replies)
  | .create _ | .update _ | .append _ => (.ok (), replies)
  | .now => (.ofMillis 0, replies)
  | .clock => (.zero, replies)
  | .reading => (⟨.zero, ⟨0.0, 0⟩⟩, replies)
  | .invoke _ => (replies.headD ⟨.zero, .ok .succeed⟩, replies.tail)
  | .setStatus .. | .unregister _ | .announce _ | .wait _ => ((), replies)

namespace Program

variable {α : Type}

/-- Follows a program through calm surroundings, and gives the replies that are
left as well. -/
def play (replies : List Reply) : Program α → History × α × List Reply
  | .done value => ([], value, replies)
  | .ask request next =>
    let (answer, replies) := request.calmAnswer replies
    let (history, result) := (next answer).play replies
    (⟨request, answer⟩ :: history, result)

theorem ends_play
    (program : Program α)
    (replies : List Reply) :
    program.Ends (program.play replies).1 (program.play replies).2.1 := by
  induction program generalizing replies with
  | done value => exact .here _
  | ask request next inductionHypothesis => exact .ask (inductionHypothesis _ _)

/-- In calm surroundings no attempt is turned away. -/
theorem accepted_play
    (program : Program α)
    (replies : List Reply)
    (record : StepRecord)
    (error : StoreError) :
    ⟨.append record, .error error⟩ ∉ (program.play replies).1 := by
  induction program generalizing replies with
  | done value => simp [play]
  | ask request next inductionHypothesis =>
    intro member
    rcases List.mem_cons.mp member with same | later
    · cases request <;> cases same
    · exact inductionHypothesis _ _ later

/-- Every program can be brought to an end. -/
theorem Reaches.exists_ends
    {program last : Program α}
    {history : History}
    (reaches : program.Reaches history last) :
    ∃ rest value, program.Ends (history ++ rest) value :=
  ⟨_, _, reaches.trans (last.ends_play [])⟩

end Program
end WorkflowEngine
