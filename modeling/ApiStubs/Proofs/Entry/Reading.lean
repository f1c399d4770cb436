import ApiStubs.Entry.Reading
import ApiStubs.Proofs.Results
import ApiStubs.Xml.Document
import ApiStubs.Xml.Scope

/-!
What reading an entry fails with. Every error is about the entry, so it belongs to the step that
transforms the feed. A name and a kind are all that an entry needs.
-/

namespace ApiStubs

open Xml (Element)

variable {e : Element} {name entry : String}

def InTransform (e : Error) : Prop :=
  e.stage = .transform

theorem required_failsWith : FailsWith InTransform (required e name entry) := by
  unfold required
  split
  case h_1 => exact .ok
  case h_2 => exact .error rfl

theorem RawParameter.ofElement_failsWith :
    FailsWith InTransform (RawParameter.ofElement entry e) := by
  refine .bind required_failsWith fun name _ => ?_
  dsimp only
  split
  case isTrue  => exact .bind (.throw rfl) fun _ h => nomatch h
  case isFalse =>
    split
    case h_1 => exact .throw rfl
    case h_2 => exact .pure

theorem Signature.ofElement_failsWith : FailsWith InTransform (Signature.ofElement entry e) :=
  .bind (.mapM fun _ _ => RawParameter.ofElement_failsWith) fun _ _ => .pure

theorem Example.ofElement_failsWith : FailsWith InTransform (Example.ofElement entry e) := by
  unfold Example.ofElement
  split
  case h_1 => exact .error rfl
  case h_2 => exact .ok

theorem Entry.ofElement_failsWith : FailsWith InTransform (Entry.ofElement e) := by
  refine .bind required_failsWith fun name _ => .bind required_failsWith fun kindName _ => ?_
  dsimp only
  split
  case h_1 =>
    refine .bind .pure fun kind _ => ?_
    refine .bind (.mapM fun _ _ => Signature.ofElement_failsWith) fun _ _ => ?_
    exact .bind (.mapM fun _ _ => Example.ofElement_failsWith) fun _ _ => .pure
  case h_2 => exact .bind (.throw rfl) fun _ h => nomatch h

-- An element that says nothing else of an entry than its kind and its name.
def bareElement (kind name : String) : Element where
  tag.name := { localName := "entry" }
  tag.attributes := [⟨{ localName := "name" }, name⟩, ⟨{ localName := "type" }, kind⟩]
  tag.labels := [[], [Xml.builtInLabel]]
  children := []

-- An element that says of an entry its kind alone.
def namelessElement (kind : String) : Element :=
  { bareElement kind "" with tag.attributes := [⟨{ localName := "type" }, kind⟩] }

-- An element of a method that has an example without code.
def codelessElement : Element :=
  { bareElement "method" "hide" with
    children := [.element ⟨{ localName := "example" }, [], [[], [], [Xml.builtInLabel]]⟩ []] }

-- An element of a method that says in which version it was added.
def versionElement (name version : String) : Element :=
  { bareElement "method" name with
    children := [
      .element ⟨{ localName := "signature" }, [], [[], [], [Xml.builtInLabel]]⟩
        [.element ⟨{ localName := "added" }, [], [[], [], [], [Xml.builtInLabel]]⟩
          [.text version]]] }

def versionEntry (name version : String) : Entry where
  name := name
  kind := .method
  signatures := [{ added := version }]
  added := version

-- A feed with these nodes between its tags.
def entriesDocument (nodes : List Xml.Node) : Xml.Document where
  root.tag.name := { localName := "entries" }
  root.tag.labels := [[Xml.builtInLabel]]
  root.children := nodes

theorem ofElement_bareElement {kind : EntryKind} {kindName : String}
    (h : EntryKind.ofName? kindName = some kind) :
    Entry.ofElement (bareElement kindName name) = .ok { name, kind } := by
  have hn : required (bareElement kindName name) "name" "?" = .ok name := rfl
  have hk : required (bareElement kindName name) "type" name = .ok kindName := rfl
  simp only [Entry.ofElement, hn, hk, h, bind, Except.bind]
  rfl

end ApiStubs
