import Refinery.CommonFiles.Libraries
import Refinery.Maven.Library
import Refinery.Maven.MissingPoms
import Refinery.Merge

namespace Refinery.Maven

open Template (Value Parameters)

/-!
# Common files of a library
-/

def latestVersion (group artifact : String) : Job (Option String) := do
  let page <- Job.fetch ("https://repo1.maven.org/maven2/" ++ Text.replace "." "/" group ++ "/" ++
    artifact ++ "/maven-metadata.xml")
  if 400 ≤ page.status then return some "0.0.0"
  Job.ofExcept (latestInMetadata page.text)

def textOrNull (text : Option String) : Doc :=
  (text.map Doc.text).getD .null

def sampleFiles : String := "samples/**/src/main/java/**/*.java"

def metadata : Job (List (String × Doc)) := do
  let repo <- RepositoryMetadata.load
  let own <- if repo.truthy then do
      let (group, artifact) <- Job.ofExcept (distributionOf repo)
      let version <- latestVersion group artifact
      pure [("repo", repo), ("latest_version", textOrNull version)]
    else pure []
  let bill <- latestVersion "com.google.cloud" "libraries-bom"
  let samples <- Sample.inFiles [sampleFiles]
  let snippets <- Snippet.inFiles [sampleFiles, "samples/**/pom.xml"]
  let required <- if repo.truthy then Job.ofExcept (repo.entry? "min_java_version") else pure none
  return own ++ [ ("latest_bom_version", textOrNull bill), ("samples", .list samples),
      ("snippets", .fields (snippets.map fun (name, text) => (name, .text text))), ("min_java_version", required.getD (.int 8)) ]

def specialRepositories : List String :=
  ["java-translate", "java-dns", "java-notification", "java-resourcemanager"]

def movedAway (shared : Bool) (kind short : Doc) : Doc :=
  if shared then .bool false
  else if kind.same (.text "GAPIC_AUTO") then .bool true
  else if !short.truthy then short
  else .bool (specialRepositories.any fun name => short.same (.text name))

def addCommonFiles (excludes : List String) (templates : Option Path) (parameters : Parameters) :
    Job Unit := do
  let fields <- metadata
  let shared := ((parameters.lookup "monorepo").getD (.bool false))
  let repo <- Job.need (.noKey "'repo'") (fields.lookup "repo")
  let short <- Job.ofExcept (repo.entry "repo_short")
  let bill := (<- Job.setting? "SYNTHTOOL_LIBRARIES_BOM_VERSION").map fun version =>
    ("libraries_bom_version", Doc.text version)
  let version := textOrNull (<- Job.setting? "SYNTHTOOL_LIBRARY_VERSION")
  let kind <- Job.ofExcept (repo.entry "library_type")
  let parameters := parameters.set "metadata"
    (.ofDoc (.fields (fields ++ bill.toList ++ [("library_version", version)])))
  let parameters := parameters.set "monorepo" shared
  let parameters := parameters.set "migrated_split_repo"
    (.ofDoc (movedAway shared.truthy kind short))
  let rendered <- (<- CommonFiles.new templates).plain "java_library" parameters
  let automatic := (<- Job.setting? "KOKORO_ROOT").isSome
  let excludes := excludes ++ if automatic then ["README.md"] else []
  let _ <- Transfer.move (.ofPaths [rendered]) none (.many (excludes.map .text))
    (some Merge.commonFiles)

def addCustomFiles (names : List String) (parameters : Parameters) : Job Unit := do
  let fields <- metadata
  let partials <- Partials.load
  let parameters := parameters.set "metadata"
    (.ofDoc (.fields (fields ++ [("partials", partials)])))
  names.forM fun name => do
    let rendered <- (<- CommonFiles.new).render name parameters
    let _ <- Transfer.move (.ofPaths [rendered])

end Refinery.Maven
