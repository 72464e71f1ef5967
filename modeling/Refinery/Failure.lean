import Refinery.Path.Basic

namespace Refinery

open Text

/-!
# Complaints

What the library itself refuses to do, and the words it says it in.
-/

inductive Complaint where
  | untracked (path : String)
  | nothingCopied (sources : String)
  | noSampleFolder (folder : String)
  | unsupportedLanguage
  | noDefinitions (config : String)
  | noSources (service : String)
  | noConfiguration (path : String)
  | noGeneratedOutput (path : String)
  | noProtoFolder (path : String)
  | emptyProtoFolder (path : String)
  | noExtraProto (path : String)
  | emptyOutput (path : String)
  | noTarget (protos : String)
  | programsMissing (programs : List String)
  | gitMissing
  | packageFields (fields : List String)
  | noVersions
  | noDefaultVersion (versions : String) (default : String)
  | noClient (default : String)
  | noLibraryVersion (paths : String) (pattern : String)
  | defaultVersionUnknown
  | badRepositoryUrl
  | noTemplateSource
  | noTestFolders
  | notebooksFailed
  deriving DecidableEq

namespace Complaint

def message : Complaint -> String
  | untracked path => s!"The root for {path} is not tracked."
  | nothingCopied sources =>
    s!"No files in sources {sources} were copied. Does the source contain files?"
  | noSampleFolder folder => s!"'{folder}' does not exist"
  | unsupportedLanguage => "provided language unsupported"
  | noDefinitions config => s!"Unable to generate {config}, the googleapis repositoryis unavailable."
  | noSources service =>
    s!"Unable to generate {service}, the sources repository repositoryis unavailable."
  | noConfiguration path => s!"Unable to find configuration yaml file: {path}."
  | noGeneratedOutput path => s!"Unable to find generated output of artman: {path}."
  | noProtoFolder path => s!"Unable to find directory for protos: {path}."
  | emptyProtoFolder path => s!"Directory {path} exists, but no protos found."
  | noExtraProto path => s!"Unable to find extra proto file: {path}."
  | emptyOutput path => s!"Code generation seemed to succeed, but {path} is empty."
  | noTarget protos =>
    s!"Cannot determine bazel_target from proto_path {protos}." ++ "Please set bazel_target explicitly."
  | programsMissing programs => "Dependencies missing: " ++ join ", " programs
  | gitMissing => "Could not find git in PATH."
  | packageFields fields =>
    "package.json is missing required fields " ++ quotedList fields
  | noVersions => "List of version can't be empty, it must contain default version at least."
  | noDefaultVersion versions default =>
    s!"Version {versions} must contain default version {default}."
  | noClient default => s!"No client is exported in the default version's({default}) index.ts ."
  | noLibraryVersion paths pattern =>
    s!"Unable to find library version in files {paths} with regex {pattern}"
  | defaultVersionUnknown => "Could not find the default version"
  | badRepositoryUrl => "repository url is not a properly formatted git string."
  | noTemplateSource => "Need to specify either folder or file"
  | noTestFolders => "No test folders found."
  | notebooksFailed => "Notebook failures detected. See logs for details"

end Complaint

/-!
## Failures

Everything that can stop a job, by cause.
-/

inductive YamlStage where
  | characters
  | tokens
  | shape
  | references
  | values
  deriving DecidableEq

inductive TemplateFault where
  | syntaxError
  | unknownName
  | notFound
  | noneFound
  | undefined
  | misuse
  | badArgument
  | unworkable
  deriving DecidableEq

inductive OptionFault where
  | unknownOption
  | missingOption
  | strayValue
  | badArgument
  | usage
  deriving DecidableEq

inductive Failure where
  | absent (path : String)
  | isDirectory (path : String)
  | notDirectory (path : String)
  | occupied (path : String)
  | notEmpty (path : String)
  | linkLoop (path : String)
  | sameFile (source destination : String)
  /-- A copy that is not complete, or a move onto something that is there. -/
  | partialCopy
  | systemRefusal
  | undecodable
  | commandFailed (command : List String) (status : Int)
  | webStatus (status : Nat)
  | noKey (shown : String)
  | noIndex
  | wrongKind
  | badValue
  | noMember
  | unmetAssumption
  | exhausted
  | unsupported
  | tooDeep
  | arithmetic
  | tooLarge
  | unencodable
  | unboundName
  | internal
  | disturbed
  | unknownEncoding
  | badPattern (reason : String)
  | unknownGroup (reason : String)
  | badJson
  | badRecord
  | badMarkup
  | badYaml (stage : YamlStage)
  | badVersion
  | notInstalled
  | template (fault : TemplateFault)
  | option (fault : OptionFault)
  | service (text : String)
  | exit (status : Int)
  | complaint (reason : Complaint)
  deriving DecidableEq, Inhabited

namespace Failure

def describe : Failure -> String
  | absent path => "[Errno 2] No such file or directory: " ++ quoted path
  | isDirectory path => "[Errno 21] Is a directory: " ++ quoted path
  | notDirectory path => "[Errno 20] Not a directory: " ++ quoted path
  | occupied path => "[Errno 17] File exists: " ++ quoted path
  | notEmpty path => "[Errno 39] Directory not empty: " ++ quoted path
  | linkLoop path => "[Errno 40] Too many levels of symbolic links: " ++ quoted path
  | sameFile source destination =>
    quoted source ++ " and " ++ quoted destination ++ " are the same file"
  | commandFailed command status =>
    "Command '" ++ quotedList command ++ "' returned non-zero exit status " ++ toString status ++ "."
  | noKey shown => shown
  | badPattern reason => reason
  | unknownGroup reason => reason
  | service text => text
  | complaint reason => reason.message
  | exit status => toString status
  | _ => ""

def ofSystem : Failure -> Bool
  | absent _ | isDirectory _ | notDirectory _ | occupied _ | notEmpty _ | linkLoop _ => true
  | sameFile _ _ | partialCopy | systemRefusal => true
  | _ => false

end Failure

end Refinery
