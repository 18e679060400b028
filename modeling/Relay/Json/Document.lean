import Relay.Json.Token

/-!
# JSON documents

The tree of a text. Also a text that is not JSON has a tree: it ends where the text goes wrong. Each
list and record around that place carries the mistake that a reader finds who passes over the part
without looking into it. A reader that looks into a part and finds a mistake before that place reports
its own.

A tree is a fold over the tokens, `Progress.step`, that keeps the open lists and records on a stack;
so the tree of a text put together from parts comes from the trees of the parts.
-/

namespace Relay.Json

/-- A value of a document, possibly broken off. -/
inductive Node where
  /-- A value of one token, or a token that stands where a value should be. -/
  | leaf (token : Token)
  | list (items : List Node) (cut : Option Mistake)
  /-- Members in order; a name is a token, as anything may stand where a name should be. -/
  | record (members : List (Token × Node)) (cut : Option Mistake)
  /-- No value: the text goes wrong between a name and its value. -/
  | absent (mistake : Mistake)

/-- Why a node cannot be passed over, if it cannot. -/
def Node.mistake? : Node → Option Mistake
  | leaf t => t.mistake?
  | list _ cut => cut
  | record _ cut => cut
  | absent m => some m

/-- A list or record that has been opened, with its parts so far, the last one first. -/
inductive Frame where
  | list (items : List Node)
  | record (members : List (Token × Node)) (name : Token)

/-- What may come next. -/
inductive Place where
  /-- A value. -/
  | value
  /-- A value or the end of the list. -/
  | item
  /-- A name. -/
  | name
  /-- A name or the end of the record. -/
  | member
  /-- The colon after a name. -/
  | colon
  /-- A comma or the end of the innermost list or record. -/
  | next
  deriving DecidableEq, Repr

/-- The tree of a text. -/
structure Document where
  root : Node
  /-- Whether something comes after the value. -/
  trailing : Bool

namespace Frame

/-- A frame with one more part. -/
def add (node : Node) : Frame → Frame
  | list items => list (node :: items)
  | record members name => record ((name, node) :: members) .missing

/-- A frame closed, in order or by a mistake. -/
def close (cut : Option Mistake) : Frame → Node
  | list items => .list items.reverse cut
  | record members _ => .record members.reverse cut

/-- Closes all frames around the place where the text goes wrong. -/
def collapse (mistake : Mistake) : Node → List Frame → Node
  | node, [] => node
  | node, frame :: frames => collapse mistake ((frame.add node).close (some mistake)) frames

/-- The text ends inside a frame, where a part or the end of the frame may come. -/
def unended : Frame → Mistake
  | list _ => .endInList
  | record _ _ => .endInRecord

/-- Neither a comma nor the end of a frame comes after a part of it. -/
def unseparated : Frame → Mistake
  | list _ => .noListNext
  | record _ _ => .noRecordNext

end Frame

namespace Document

/-- A text that goes wrong at the last part of the innermost frame. -/
def broken (mistake : Mistake) (node : Node) (frames : List Frame) : Document :=
  ⟨Frame.collapse mistake node frames, false⟩

/-- A text that goes wrong after the last part of the innermost frame. -/
def brokenAfter (mistake : Frame → Mistake) : List Frame → Document
  | [] => broken .endInValue (.leaf .missing) []
  | frame :: frames => broken (mistake frame) (frame.close (some (mistake frame))) frames

/-- A text that goes wrong at the name of a member. -/
def brokenName (mistake : Mistake) (name : Token) : List Frame → Document
  | .record members _ :: frames => broken mistake (.leaf .missing) (.record members name :: frames)
  | frames => broken mistake (.leaf .missing) frames

end Document

/-- How far a text has been read. -/
inductive Progress where
  /-- Something has to come yet. -/
  | reading (place : Place) (frames : List Frame)
  /-- The value is complete. -/
  | whole (root : Node)
  /-- Nothing that follows matters. -/
  | ended (document : Document)

namespace Progress

open Document (broken brokenAfter brokenName)

/-- A node is complete. -/
def complete (node : Node) : List Frame → Progress
  | [] => whole node
  | frame :: frames => reading .next (frame.add node :: frames)

/-- The innermost frame is complete. -/
def completeInnermost : List Frame → Progress
  | [] => ended (broken .noValue (.leaf .stray) [])
  | frame :: frames => complete (frame.close none) frames

/-- A value is due. -/
def value (frames : List Frame) : Token → Progress
  | .openList => reading .item (.list [] :: frames)
  | .openRecord => reading .member (.record [] .missing :: frames)
  | t =>
    match t.mistake? with
    | none => complete (.leaf t) frames
    | some mistake => ended (broken mistake (.leaf t) frames)

/-- A name is due. -/
def name (frames : List Frame) (t : Token) : Progress :=
  match t, frames with
  | .text _ none, .record members _ :: outer => reading .colon (.record members t :: outer)
  | .text _ (some mistake), _ => ended (brokenName mistake t frames)
  | _, _ => ended (brokenName .noName t frames)

/-- A comma or the end of the innermost frame is due. -/
def next (frames : List Frame) (t : Token) : Progress :=
  match frames, t with
  | .list _ :: _, .comma => reading .value frames
  | .record _ _ :: _, .comma => reading .name frames
  | .list _ :: _, .closeList => completeInnermost frames
  | .record _ _ :: _, .closeRecord => completeInnermost frames
  | _, _ => ended (brokenAfter Frame.unseparated frames)

/-- One more token. -/
def step : Progress → Token → Progress
  | reading .value frames, t => value frames t
  | reading .item frames, .closeList => completeInnermost frames
  | reading .item frames, t => value frames t
  | reading .name frames, t => name frames t
  | reading .member frames, .closeRecord => completeInnermost frames
  | reading .member frames, t => name frames t
  | reading .colon frames, .colon => reading .value frames
  | reading .colon frames, _ => ended (broken .noColon (.absent .noColon) frames)
  | reading .next frames, t => next frames t
  | whole root, _ => ended ⟨root, true⟩
  | ended document, _ => ended document

/-- The tree when the text ends here. -/
def document : Progress → Document
  | reading .value frames => broken .endInValue (.leaf .missing) frames
  | reading .item frames | reading .member frames | reading .next frames =>
    brokenAfter Frame.unended frames
  | reading .name frames => brokenName .endInRecord .missing frames
  | reading .colon frames => broken .endInRecord (.absent .endInRecord) frames
  | whole root => ⟨root, false⟩
  | ended document => document

end Progress

namespace Document

/-- The tree of a list of tokens. -/
def ofTokens (ts : List Token) : Document :=
  (ts.foldl Progress.step (.reading .value [])).document

/-- The tree of a text. -/
def ofText (text : String) : Document := ofTokens (tokens text)

end Document

end Relay.Json
