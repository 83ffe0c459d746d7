import SessionVault.Bytes
import SessionVault.Failure
import SessionVault.Text.Natural

/-!
# Answers: what a server sends back

An answer is a status, an error, a number, octets, nothing, or a list of answers.  What is made of it depends
on what was asked for: a text (`Answer.text?`), a number (`Answer.number?`), or only that nothing went wrong
(`Answer.accepted`).  An error always stays one, with its code (`code?_fault`).
-/

namespace SessionVault.Redis

/-- What a server sends back for a command. -/
inductive Answer where
  | status (text : String)
  | error (code : String) (detail : Option String)
  | number (n : Int)
  | octets (bs : Bytes)
  | nothing
  | list (items : List Answer)

namespace Answer

/-! ### Errors -/

/-- An error of the server, as the client reports it. -/
def fault (code : String) (detail : Option String) : ClientFault :=
  match ServerTrouble.all.find? fun t => t.code == code with
  | some t => .reported (.server t) "An error was signalled by the server" detail
  | none => .answered code detail

/-- The code of an error is kept. -/
theorem code?_fault (code : String) (detail : Option String) : (fault code detail).code? = some code := by
  unfold fault
  split
  · rename_i t h
    have := List.find?_some h
    simpa [ClientFault.code?] using this
  · rfl

/-- An answer of a kind that was not asked for. -/
def unexpected (description : String) : ClientFault := .reported .unexpectedReturnType description none

mutual

def firstFault? : Answer → Option ClientFault
  | error code detail => some (fault code detail)
  | list items => firstFaultOf? items
  | _ => none

def firstFaultOf? : List Answer → Option ClientFault
  | [] => none
  | a :: as => a.firstFault?.orElse fun _ => firstFaultOf? as

end

/-! ### Meanings -/

/-- Any answer without an error. -/
def accepted (a : Answer) : Except ClientFault Unit :=
  match a.firstFault? with
  | some f => .error f
  | none => .ok ()

/-- The text of octets; there is none where they are not UTF-8. -/
def textOf (bs : Bytes) : Except ClientFault String :=
  match Bytes.toString? bs with
  | some s => .ok s
  | none => .error (.reported .parse "Invalid UTF-8" none)

/-- A text, or nothing.  A number is the text of its digits. -/
def text? : Answer → Except ClientFault (Option String)
  | status s => .ok (some s)
  | error code detail => .error (fault code detail)
  | number n => .ok (some (toString n))
  | octets bs => (textOf bs).map some
  | nothing => .ok none
  | list _ => .error (unexpected "Response type not string compatible.")

def text (a : Answer) : Except ClientFault String := do
  match ← a.text? with
  | some s => .ok s
  | none => .error (unexpected "Response type not string compatible.")

def numberOf (s : String) : Except ClientFault Int :=
  match Natural.readSigned? 64 s with
  | some n => .ok n
  | none => .error (unexpected "Could not convert from string.")

/-- A number, or a text that spells one. -/
def number? : Answer → Except ClientFault Int
  | status s => numberOf s
  | error code detail => .error (fault code detail)
  | number n => .ok n
  | octets bs => textOf bs >>= numberOf
  | _ => .error (unexpected "Response type not convertible to numeric.")

end Answer

end SessionVault.Redis
