import SceneLint.Path.FilePath
import SceneLint.Text.Case

/-!
# Paths with drives

A `DrivePath` starts at a drive or a network share and passes through names divided by backslashes;
forward slashes count as backslashes. Paths are compared without regard to case. A path may have a
drive and no root, so the start counts as two steps when one path is cut off another.
-/

namespace SceneLint

/-- A `DrivePath` is a drive, a root and the names it passes through. -/
structure DrivePath where
  drive : String
  root : String
  parts : List String
deriving DecidableEq

namespace DrivePath

/-- `extended cs` takes the sign for unparsed paths off the front, and turns the long form of a
network share into the short one. -/
def extended (cs : List Char) : List Char × List Char :=
  match cs with
  | '\\' :: '\\' :: '?' :: '\\' :: 'U' :: 'N' :: 'C' :: '\\' :: rest =>
      ("\\\\?\\UNC".toList, '\\' :: '\\' :: rest)
  | '\\' :: '\\' :: '?' :: '\\' :: rest => ("\\\\?\\".toList, rest)
  | _ => ([], cs)

/-- `share? lead cs` is the drive and rest of a network share: a machine and a mount point behind
two backslashes. -/
def share? (lead cs : List Char) : Option (List Char × List Char) :=
  match cs with
  | '\\' :: '\\' :: rest =>
      if rest.head? = some '\\' then none
      else
        match Text.cut? ['\\'] rest with
        | none => none
        | some (machine, behind) =>
            if behind.head? = some '\\' then none
            else
              let mount := behind.takeWhile (· != '\\')
              let drive := '\\' :: machine ++ '\\' :: mount
              let drive := if lead.isEmpty then '\\' :: drive else lead ++ drive
              some (drive, behind.drop (mount.length + 1))
  | _ => none

/-- `splitRoot cs` cuts a written path into drive, root and the rest. -/
def splitRoot (cs : List Char) : List Char × List Char × List Char :=
  let (lead, body) := extended cs
  match share? lead body with
  | some (drive, rest) => (drive, ['\\'], rest)
  | none =>
      let (drive, body) :=
        match body with
        | letter :: ':' :: rest => if letter.isAlpha then ([letter, ':'], rest) else ([], body)
        | _ => ([], body)
      let rest := body.dropWhile (· == '\\')
      (lead ++ drive, if rest.length < body.length then ['\\'] else [], rest)

/-- `ofString s` reads a path. -/
def ofString (s : String) : DrivePath :=
  let cs := s.toList.map fun c => if c = '/' then '\\' else c
  let (drive, root, rest) := splitRoot cs
  let names := (rest.splitOn '\\').map String.ofList
  ⟨String.ofList drive, String.ofList root, names.filter FilePath.isStep⟩

/-- `bareText p` writes the drive, the root and the names of a path. -/
def bareText (p : DrivePath) : String :=
  p.drive ++ p.root ++ "\\".intercalate p.parts

/-- `text p` writes a path; the empty path is a point. -/
def text (p : DrivePath) : String :=
  if p.bareText = "" then "." else p.bareText

/-- `step p name` leads one name further; a name that starts with a drive starts anew. -/
def step (p : DrivePath) (name : String) : DrivePath :=
  match splitRoot name.toList with
  | ([], _, _) => { p with parts := p.parts ++ [name] }
  | (drive, root, rest) =>
      ⟨String.ofList drive, String.ofList root, [String.ofList rest].filter FilePath.isStep⟩

/-- `restarted p` follows the names of a path one by one. -/
def restarted (p : DrivePath) : DrivePath :=
  p.parts.foldl step { p with parts := [] }

/-- `steps p` lists what a path passes through, its drive and root included. -/
def steps (p : DrivePath) : List String :=
  if p.root ≠ "" then p.drive :: p.root :: p.parts
  else if p.drive ≠ "" then p.drive :: p.parts
  else p.parts

/-- `relativeTo p root` is the way from `root`, followed name by name, to `p`. -/
def relativeTo (p root : DrivePath) : Except NotBelow DrivePath :=
  let root := root.restarted
  let n := root.steps.length
  let outside :=
    if n = 0 then p.root != "" || p.drive != ""
    else (p.steps.take n).map Text.lower != root.steps.map Text.lower
  if outside then .error ⟨p.text, root.bareText⟩
  else if n = 1 && p.root ≠ "" then .ok ⟨"", p.root, p.steps.drop 2⟩
  else .ok ⟨"", "", p.steps.drop n⟩

end DrivePath

end SceneLint
