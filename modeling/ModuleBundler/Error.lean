import ModuleBundler.Json.Fault
import ModuleBundler.Path

/-!
What ends a build. Every failure ends the whole build; there is none that it goes on after.
-/
namespace ModuleBundler

/-- Why a file or directory cannot be had. -/
inductive IoCause where
  /-- A file that a store in memory does not hold. -/
  | noSuchFile
  | notFound | notDirectory | isDirectory | alreadyExists | nameTooLong | badName | notText
  | other (text : String)
deriving DecidableEq

namespace IoCause

def message : IoCause → String
  | noSuchFile => "no such file"
  | notFound => "No such file or directory (os error 2)"
  | notDirectory => "Not a directory (os error 20)"
  | isDirectory => "Is a directory (os error 21)"
  | alreadyExists => "File exists (os error 17)"
  | nameTooLong => "File name too long (os error 36)"
  | badName => "file name contained an unexpected NUL byte"
  | notText => "stream did not contain valid UTF-8"
  | other text => text

end IoCause

inductive ConfigCause where
  | noEntry
  /-- Two chunks would be written to one file. -/
  | sharedFile (file : String)
  | noLoader (pattern : String)
  | unknownLoader (name : String)
  /-- A rule with a text that is no pattern. -/
  | badPattern (text : String)
  | badText (fault : Json.Fault)
  /-- A file with a text that is no configuration. -/
  | badFile (path : Path) (fault : Json.Fault)
  | other (text : String)

inductive BuildError where
  /-- No file for what a module in a directory asks for. -/
  | resolution (specifier : String) (directory : Path)
  | parse (path : Path) (message : String)
  | transform (path : Path) (name : String) (message : String)
  | io (path : Path) (cause : IoCause)
  | config (cause : ConfigCause)
  | report (fault : Json.Fault)

namespace ConfigCause

def lead : String := "Configuration error: "

def textMessage (fault : Json.Fault) : String := "Invalid config file: " ++ fault.message

def message : ConfigCause → String
  | noEntry => "no entry configured"
  | sharedFile file =>
    "multiple chunks would be written to '" ++ file ++
      "'; add a [name] placeholder to the output filename"
  | noLoader pattern => "rule '" ++ pattern ++ "' names no loader"
  | unknownLoader name => "unknown loader '" ++ name ++ "'"
  | badPattern text => "Invalid rule pattern: " ++ text
  | badText fault => textMessage fault
  | badFile path fault => "failed to parse " ++ path.text ++ ": " ++ lead ++ textMessage fault
  | other text => text

end ConfigCause

namespace BuildError

def message : BuildError → String
  | resolution specifier directory =>
    "Can't resolve '" ++ specifier ++ "' in '" ++ directory.text ++ "'"
  | parse path message => "Parse error in " ++ path.text ++ ": " ++ message
  | transform path name message =>
    "Transform '" ++ name ++ "' failed on " ++ path.text ++ ": " ++ message
  | io path cause => "IO error on " ++ path.text ++ ": " ++ cause.message
  | config cause => ConfigCause.lead ++ cause.message
  | report fault => "Failed to serialize build report: " ++ fault.message

def title : BuildError → String
  | resolution .. => "Resolution Error"
  | parse .. => "Parse Error"
  | transform .. => "Transform Error"
  | io .. => "IO Error"
  | config _ => "Configuration Error"
  | report _ => "Report Error"

def path? : BuildError → Option Path
  | resolution _ path | parse path _ | transform path _ _ | io path _ => some path
  | config _ | report _ => none

def details (e : BuildError) : String :=
  match e with
  | resolution _ directory => "\n📁 Searched in: " ++ directory.text
  | transform path name _ => "\n🔧 Rule: " ++ name ++ "\n📁 File: " ++ path.text
  | parse path _ | io path _ => "\n📁 File: " ++ path.text
  | config _ | report _ => ""

def detailed (e : BuildError) : String := "❌ " ++ e.title ++ ": " ++ e.message ++ e.details

end BuildError

end ModuleBundler
