import Refinery.Workspace.Files
import Refinery.Xml.Parse

namespace Refinery
namespace Maven

open Text

/-!
# Modules and their versions

A file lists the released and the current version of each module.
-/

structure Module where
  group : String
  artifact : String
  version : String
  released : String
  deriving DecidableEq

def messageGroup (group : String) : String :=
  let shared := ["com.google.cloud", "com.google.area120", "com.google.analytics"]
  (if shared.contains group then "com.google" else group) ++ ".api.grpc"

abbrev Modules := List Module

namespace Modules

def find? (modules : Modules) (artifact : String) : Option Module :=
  List.find? (fun known => known.artifact = artifact) modules

def has (modules : Modules) (artifact : String) : Bool :=
  (find? modules artifact).isSome

def put (modules : Modules) (new : Module) : Modules :=
  if has modules new.artifact then
    modules.map fun old => if old.artifact = new.artifact then new else old
  else modules ++ [new]

def need (modules : Modules) (artifact : String) : Except Failure Module :=
  match find? modules artifact with
  | some found => .ok found
  | none => .error (.noKey (quoted artifact))

def isCloudClient (artifacts : List String) : Bool :=
  artifacts.any fun artifact =>
    startsWith artifact "proto-" || startsWith artifact "grpc-"

end Modules

def moduleOfLine? (group line : String) : Option Module :=
  let line := trim line
  if startsWith line "#" then none
  else
    match split ":" line with
    | [artifact, released, version] =>
      let own := startsWith artifact "google-"
      some { group := if own then group else messageGroup group, artifact, version, released }
    | _ => none

def modulesOfText (group text : String) : Modules :=
  ((lines text).filterMap (moduleOfLine? group)).foldl Modules.put []

def loadModules (path group : String) : Job Modules := do
  if <- Job.isFile path then return modulesOfText group (<- Job.readText path)
  return []

def versionLine (module : Module) : String :=
  module.artifact ++ ":" ++ (if module.released = "" then module.version else module.released) ++ ":" ++ module.version

def versionList (modules : Modules) : String :=
  "# Format:\n# module:released-version:current-version\n" ++
    String.join (modules.map fun module => "\n" ++ versionLine module) ++ "\n"

def descriptionSpace : String := "http://maven.apache.org/POM/4.0.0"

def textStartsWith (element : Xml.Element) (start : String) : Except Failure Bool :=
  match element.text with
  | some text => .ok (startsWith text start)
  | none => .error .noMember

def dependencyMatches (dependency : Xml.Element) (group artifact : String) : Except Failure Bool :=
  match dependency.find? [⟨descriptionSpace, "artifactId"⟩], dependency.find? [⟨descriptionSpace, "groupId"⟩] with
  | some artifactElement, some groupElement => do
    if <- textStartsWith artifactElement artifact then textStartsWith groupElement group
    else return false
  | _, _ => .ok false

def latestInMetadata (metadata : String) : Except Failure (Option String) := do
  let root <- Xml.parse metadata
  return (root.find? [⟨"", "versioning"⟩, ⟨"", "latest"⟩]).bind Xml.Element.text

end Maven

namespace Maven
namespace Pom

/-!
## Descriptions of modules

Each module has a description in XML.
-/

def element (name content : String) : String :=
  "<" ++ name ++ ">" ++ content ++ "</" ++ name ++ ">"

def indent (width : Nat) (lines : List String) : List String :=
  lines.map fun line => if line.isEmpty then line else Text.repeated width " " ++ line

def block (name : String) (inner : List String) (width : Nat := 2) : List String :=
  ("<" ++ name ++ ">") :: indent width inner ++ ["</" ++ name ++ ">"]

def coordinates (group artifact : String) : List String :=
  [element "groupId" group, element "artifactId" artifact]

def keptVersion (version artifact : String) : String :=
  element "version" version ++ "<!-- \x7bx-version-update:" ++ artifact ++ ":current\x7d -->"

def dependency (group artifact : String) (more : List String := []) : List String :=
  block "dependency" (coordinates group artifact ++ more)

variable (target : Module)

def dependencyOn (more : List String := []) : List String :=
  dependency target.group target.artifact more

def versionedDependency : List String :=
  dependencyOn target [keptVersion target.version target.artifact]

def identity : List String :=
  coordinates target.group target.artifact ++ [keptVersion target.version target.artifact]

def parentBlock (parent : Module) (artifact : String) : List String :=
  block "parent" (coordinates parent.group parent.artifact ++ [keptVersion parent.version artifact])

def sharedParent : List String :=
  block "parent" (coordinates "com.google.cloud" "google-cloud-shared-config" ++ [element "version" "1.5.3"])

def schema : String := "http://maven.apache.org/xsd/maven-4.0.0.xsd"

def instances : String := "http://www.w3.org/2001/XMLSchema-instance"

def project (inner : List String) : List String :=
  ("<project xmlns=\"" ++ descriptionSpace ++ "\" xmlns:xsi=\"" ++ instances ++
    "\" xsi:schemaLocation=\"" ++ descriptionSpace ++ " " ++ schema ++ "\">") ::
    indent 2 (element "modelVersion" "4.0.0" :: inner) ++ ["</project>"]

def shortProject (inner : List String) : List String :=
  [ "<project xmlns=\"" ++ descriptionSpace ++ "\"", "  xmlns:xsi=\"" ++ instances ++ "\"",
    "  xsi:schemaLocation=\"" ++ descriptionSpace ++ " " ++ schema ++ "\">" ] ++
    indent 2 (element "modelVersion" "4.0.0" :: inner) ++ ["</project>"]

def flattenBuild : List String :=
  block "build" (block "plugins"
    (["<plugin>"] ++ indent 4 (coordinates "org.codehaus.mojo" "flatten-maven-plugin") ++ ["  </plugin>"]))

def annotationProfile : List String :=
  block "profiles" (block "profile"
    ([element "id" "java9"] ++ block "activation" [element "jdk" "[9,)"] ++
      block "dependencies" (dependency "javax.annotation" "javax.annotation-api")))

def grpcDependencies : List String :=
  dependency "io.grpc" "grpc-api" ++ dependency "io.grpc" "grpc-stub" ++ dependency "io.grpc" "grpc-protobuf"

def commonMessages : List String :=
  dependency "com.google.api.grpc" "proto-google-common-protos"

def home (repo : String) : String :=
  "https://github.com/" ++ repo

def text (lines : List String) : String :=
  String.join (lines.map (· ++ "\n"))

def messages (parent main : Module) : String :=
  text (shortProject (identity target ++ [ element "name" target.artifact,
      element "description" ("Proto library for " ++ main.artifact) ] ++ parentBlock parent main.artifact ++ block "dependencies"
      (dependency "com.google.protobuf" "protobuf-java" ++ commonMessages ++
        dependency "com.google.api.grpc" "proto-google-iam-v1" ++ dependency "com.google.api" "api-common" ++
        dependency "com.google.guava" "guava") ++ [""] ++ flattenBuild))

def services (parent main messages : Module) : String :=
  Text.dropEnd 1 (text (shortProject (identity target ++ [ element "name" target.artifact,
      element "description" ("GRPC library for " ++ main.artifact) ] ++ parentBlock parent main.artifact ++ block "dependencies"
      (grpcDependencies ++ dependency "com.google.protobuf" "protobuf-java" ++ commonMessages ++
        dependencyOn messages ++ dependency "com.google.guava" "guava") ++ [""] ++ annotationProfile ++ [""] ++ flattenBuild)))

def testDependencies (services : Modules) : List String :=
  [ "<!-- Test dependencies -->" ] ++
    dependency "junit" "junit" [element "scope" "test", element "version" "4.13.2"] ++ [""] ++
    services.flatMap (dependencyOn · [element "scope" "test"]) ++
    [ "<!-- Need testing utility classes for generated gRPC clients tests -->" ] ++
    ["gax", "gax-grpc", "gax-httpjson"].flatMap fun artifact =>
      dependency "com.google.api" artifact
        [element "classifier" "testlib", element "scope" "test"]

def client (parent : Module) (repo name description : String) (messages services : Modules) : String :=
  Text.dropEnd 1 (text ("<?xml version=\"1.0\"?>" :: project (identity target ++ [ element "packaging" "jar",
      element "name" ("Google " ++ name), element "url" (home repo),
      element "description" (name ++ " " ++ description) ] ++ parentBlock parent target.artifact ++
    block "properties" [element "site.installationModule" target.artifact] ++ block "dependencies"
      (grpcDependencies ++ dependency "com.google.api" "api-common" ++
        dependency "com.google.protobuf" "protobuf-java" ++ commonMessages ++ [""] ++
        messages.flatMap (dependencyOn ·) ++ dependency "com.google.guava" "guava" ++
        ["gax", "gax-grpc", "gax-httpjson"].flatMap (dependency "com.google.api" ·) ++
        ["grpc-google-common-protos", "proto-google-iam-v1", "grpc-google-iam-v1"].flatMap
          (dependency "com.google.api.grpc" ·) ++ dependency "org.threeten" "threetenbp" ++ [""] ++ testDependencies services) ++
    [""] ++ annotationProfile ++ [""] ++ flattenBuild)))

def developer (id name email : String) (width : Nat := 2) : List String :=
  block "developer"
    ([ element "id" id, element "name" name, element "email" email, element "organization" "Google LLC" ] ++
      block "roles" [element "role" "Developer"]) width

def organization : List String :=
  block "organization" [element "name" "Google LLC"]

def bill (main : Module) (repo name : String) (modules : Modules) : String :=
  text ("<?xml version=\"1.0\"?>" :: project (coordinates main.group (main.artifact ++ "-bom") ++
    [keptVersion main.version main.artifact, element "packaging" "pom"] ++ sharedParent ++ [ "",
      element "name" ("Google " ++ name ++ " BOM"), element "url" (home repo) ] ++
    block "description" ["BOM for " ++ name] ++ [""] ++ organization ++ [""] ++ block "developers"
      (developer "chingor13" "Jeff Ching" "chingor@google.com" ++
        developer "neenushaji" "Neenu Shaji" "neenushaji@google.com" 3) ++ [""] ++ block "scm"
      [ element "connection" ("scm:git:" ++ home repo ++ ".git"),
        element "developerConnection" ("scm:git:git@github.com:" ++ repo ++ ".git"), element "url" (home repo) ] ++
    [""] ++ block "properties" [element "maven.antrun.skip" "true"] ++ [""] ++ block "licenses" (block "license"
      [ element "name" "The Apache Software License, Version 2.0",
        element "url" "http://www.apache.org/licenses/LICENSE-2.0.txt", element "distribution" "repo" ]) ++ [""] ++
    block "dependencyManagement"
      (block "dependencies" (modules.flatMap versionedDependency)) ++ [""] ++ block "build" (block "plugins" (block "plugin"
      (coordinates "org.apache.maven.plugins" "maven-checkstyle-plugin" ++ block "configuration" [element "skip" "true"])))))

def projectReports : List String :=
  block "plugin"
    (coordinates "org.apache.maven.plugins" "maven-project-info-reports-plugin" ++ [element "version" "3.3.0"] ++
      block "reportSets" (block "reportSet" (block "reports"
        (["index", "dependency-info", "team", "ci-management", "issue-management", "licenses",
          "scm", "dependency-management", "distribution-management", "summary", "modules"].map (element "report")))) ++
      block "configuration"
        [ element "dependencyDetailsEnabled" "true", element "artifactId" "$\x7bsite.installationModule\x7d",
          element "packaging" "jar" ])

def documentReports : List String :=
  block "plugin"
    (coordinates "org.apache.maven.plugins" "maven-javadoc-plugin" ++ [element "version" "3.4.0"] ++
      block "reportSets" (block "reportSet"
        ([element "id" "html"] ++ block "reports" [element "report" "aggregate", element "report" "javadoc"])) ++
      block "configuration"
        ([ element "doclint" "none", element "show" "protected", element "nohelp" "true",
          element "outputDirectory" "$\x7bproject.build.directory\x7d/javadoc" ] ++ block "groups"
            (block "group"
              [ element "title" "Test helpers packages", element "packages" "com.google.cloud.testing" ] ++ block "group"
                [element "title" "SPI packages", element "packages" "com.google.cloud.spi*"]) ++ [""] ++ block "links"
            ([ "https://grpc.io/grpc-java/javadoc/", "https://developers.google.com/protocol-buffers/docs/reference/java/",
              "https://googleapis.dev/java/google-auth-library/latest/", "https://googleapis.dev/java/gax/latest/",
              "https://googleapis.github.io/api-common-java/" ++
                "$\x7bgoogle.api-common.version\x7d/apidocs/" ].map (element "link"))))

def library (main : Module) (repo name : String) (modules : Modules) : String :=
  text ("<?xml version='1.0' encoding='UTF-8'?>" :: project (coordinates main.group (main.artifact ++ "-parent") ++
    [ element "packaging" "pom", keptVersion main.version main.artifact,
      element "name" ("Google " ++ name ++ " Parent"), element "url" (home repo) ] ++
    block "description" ["Java idiomatic client for Google Cloud Platform services."] ++ [""] ++ sharedParent ++ [""] ++
    block "developers"
      (developer "chingor" "Jeff Ching" "chingor@google.com" ++
        developer "neenushaji" "Neenu Shaji" "neenushaji@google.com") ++ organization ++ block "scm"
      [ element "connection" ("scm:git:git@github.com:" ++ repo ++ ".git"),
        element "developerConnection" ("scm:git:git@github.com:" ++ repo ++ ".git"), element "url" (home repo),
        element "tag" "HEAD" ] ++ block "issueManagement"
      [element "url" (home repo ++ "/issues"), element "system" "GitHub Issues"] ++ block "licenses" (block "license"
      [ element "name" "Apache-2.0", element "url" "https://www.apache.org/licenses/LICENSE-2.0.txt" ]) ++ [""] ++
    block "properties"
      [ element "project.build.sourceEncoding" "UTF-8", element "project.reporting.outputEncoding" "UTF-8",
        element "github.global.server" "github", element "site.installationModule" (main.artifact ++ "-parent") ] ++
    [""] ++ block "dependencyManagement" (block "dependencies"
      (modules.flatMap versionedDependency ++ [""] ++ dependency "com.google.cloud" "google-cloud-shared-dependencies"
          [ element "version" "3.0.4", element "type" "pom", element "scope" "import" ])) ++ [""] ++
    block "build" (block "pluginManagement" (block "plugins" (block "plugin"
      (coordinates "org.apache.maven.plugins" "maven-dependency-plugin" ++
        block "configuration" (block "ignoredUnusedDeclaredDependencies"
          (["org.objenesis:objenesis", "javax.annotation:javax.annotation-api"].map
            (element "ignoredUnusedDeclaredDependency"))))))) ++ [""] ++ block "modules"
      (modules.map (fun module => element "module" module.artifact) ++ [element "module" (main.artifact ++ "-bom")]) ++
    [""] ++ block "reporting" (block "plugins" (projectReports ++ documentReports))))

end Pom
end Maven
end Refinery
