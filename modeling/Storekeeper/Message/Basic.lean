/-!
# Messages of a conversation

What a user sends, whatever it was sent as, and what the assistant answers.
-/

namespace Storekeeper

/-- What a user sends: a text, or an image that lies at an address. -/
inductive Inbound where
  | text (content : String)
  | image (url : String) (mimeType : Option String)
  deriving DecidableEq, Repr

/-- A button of a menu. -/
structure Button where
  id : String
  label : String
  deriving DecidableEq, Repr

/-- A menu as it is sent: a text with buttons below it and perhaps a line above and below. -/
structure Menu where
  body : String
  options : List Button
  header : Option String
  footer : Option String
  deriving DecidableEq, Repr

/-- What the assistant answers to a message: `preMessage` is sent first, then the menu if there is
one and else the response. -/
structure Reply where
  handled : Bool
  preMessage : Option String := none
  response : Option String := none
  buttons : Option Menu := none
  sessionEnded : Bool := false
  deriving DecidableEq, Repr

end Storekeeper
