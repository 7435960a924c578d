import StatementLine.Host.Machine

/-! A place to work in: files, and a standard input of which nothing is left once it has been read.
Programs work on the same files, and get none of the input. -/

namespace StatementLine.Host

open CommandLine

structure Workplace where
  files : Files
  unread : ByteArray

namespace Workplace

def takeInput (place : Workplace) : ByteArray × Workplace :=
  (place.unread, { place with unread := .empty })

def read (input : Input) (place : Workplace) : Except ReadFailure ByteArray × Workplace :=
  let (path, isStream) := match input with
    | .standardInput => ("", true)
    | .file path =>
        let isStream := match place.files.find? (encodedText path) with
          | some (.device (.stream 0)) => true
          | _ => false
        (encodedText path, isStream)
  if isStream then
    let (bytes, place) := place.takeInput
    (.ok bytes, place)
  else
    match place.files.read path with
    | .error failure => (.error (.file failure), place)
    | .ok content => (.ok (textBytes content), place)

/-- The surroundings in which programs are run on the files of the place. -/
def surroundings : Surroundings Workplace where
  read := read
  run invocation place :=
    let (ended, files) := runner invocation place.files
    (ended, { place with files })

end Workplace

end StatementLine.Host
