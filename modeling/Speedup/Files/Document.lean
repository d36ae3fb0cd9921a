import Speedup.Failure
import Speedup.Files.Tree
import Speedup.Log
import Speedup.Page
import Speedup.Text.Utf8

/-!
# Documents and how they are written

What the program leaves behind. Its work is a list of steps: something is logged, printed or
written. The first document that cannot be written ends the work.

In the program: `write_file` (`writeDocument`).
-/

namespace Speedup

inductive Document where
  | octets (content : List UInt8)
  | text (content : String)
  | page (chart : Chart)

namespace Document

/-- The octets of a document; a page needs a name for its plot and the time. -/
def content (id time : String) : Document → List UInt8
  | octets content => content
  | text content => Text.Utf8.encode content
  | page chart => Text.Utf8.encode (Page.html chart id time)

end Document

inductive Step where
  | note (entry : Log.Entry)
  /-- Writes a document; the path is given by segments, seen from where all the work is done. -/
  | write (within : List Path) (document : Document)
  | print (text : String)

namespace Files

structure Written where
  tree : Tree Document
  failure : Option Failure

def writeDocument (t : Tree Document) (p : Path) (document : Document) : Written :=
  let write := fun t : Tree Document =>
    match t.writeFile p document with
    | .ok t => ⟨t, none⟩
    | .error problem => ⟨t, some ⟨"Failed to create " ++ p, [problem.message]⟩⟩
  match p.parent?.filter (!·.isEmpty) with
  | none => write t
  | some outer =>
    match t.makeFolders outer with
    | ⟨t, none⟩ => write t
    | ⟨t, some problem⟩ =>
      ⟨t, some ⟨"Failed to create directory " ++ outer, [problem.message]⟩⟩

def writtenNote (p : Path) : Log.Entry := ⟨.info, .tables, "Wrote " ++ p⟩

end Files

structure Progress where
  tree : Files.Tree Document
  log : List Log.Entry
  printed : String
  failure : Option Failure

namespace Progress

def start (tree : Files.Tree Document) : Progress := ⟨tree, [], "", none⟩

def note (p : Progress) (entry : Log.Entry) : Progress := { p with log := p.log ++ [entry] }

def write (p : Progress) (path : Path) (document : Document) : Progress :=
  let written := Files.writeDocument p.tree path document
  let p := { p with tree := written.tree, failure := written.failure }
  if written.failure.isSome then p else p.note (Files.writtenNote path)

/-- Takes a step, unless there is a failure. -/
def take (root : Path) (p : Progress) (step : Step) : Progress :=
  if p.failure.isSome then p
  else
    match step with
    | .note entry => p.note entry
    | .write within document => p.write (Path.below root within) document
    | .print text => { p with printed := p.printed ++ text }

def run (root : Path) (p : Progress) (steps : List Step) : Progress := steps.foldl (take root) p

end Progress

end Speedup
