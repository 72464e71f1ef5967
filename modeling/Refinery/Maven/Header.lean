import Refinery.Replacement

namespace Refinery.Maven

/-!
# Licence headers

Every source file has to start with a licence.
-/

def licenceTerms : List String :=
  [ " Google LLC\n", " *\n", " * Licensed under the Apache License, Version 2.0 (the \"License\");\n",
    " * you may not use this file except in compliance with the License.\n",
    " * You may obtain a copy of the License at\n", " *\n", " *     https://www.apache.org/licenses/LICENSE-2.0\n",
    " *\n", " * Unless required by applicable law or agreed to in writing, software\n",
    " * distributed under the License is distributed on an \"AS IS\" BASIS,\n",
    " * WITHOUT WARRANTIES OR CONDITIONS OF ANY KIND, either express or implied.\n",
    " * See the License for the specific language governing permissions and\n", " * limitations under the License.\n", " */\n" ]

def licence (year : Nat) : String :=
  "/*\n * Copyright " ++ toString year ++ String.join licenceTerms

def messageMark : String :=
  "// Generated by the protocol buffer compiler.  DO NOT EDIT!"

def brokenLines : List String :=
  [ "/\\*\n \\* Copyright \\d\x7b4\x7d Google LLC\n", " \\*\n",
    " \\* Licensed under the Apache License, Version 2.0 \\(the \"License\"\\); ", "you may not use this file except\n",
    " \\* in compliance with the License. You may obtain a copy of the License at\n", " \\*\n",
    " \\* http://www.apache.org/licenses/LICENSE-2.0\n", " \\*\n",
    " \\* Unless required by applicable law or agreed to in writing, software distributed ", "under the License\n",
    " \\* is distributed on an \"AS IS\" BASIS, WITHOUT WARRANTIES OR CONDITIONS OF ANY KIND, ", "either express\n",
    " \\* or implied. See the License for the specific language governing permissions and ", "limitations under\n",
    " \\* the License.\n", " \\*/\n" ]

def brokenLicence : String :=
  String.join brokenLines

def startsWithCopyright (text : List Char) : Bool :=
  "* Copyright ".toList.isPrefixOf text && (let rest := text.drop 12
    (rest.take 4).length == 4 && (rest.take 4).all Text.isDigit && " Google LLC".toList.isPrefixOf (rest.drop 4))

def hasCopyright : List Char -> Bool
  | [] => false
  | c :: rest => startsWithCopyright (c :: rest) || hasCopyright rest

def hasHeader (path : String) : Job Bool := do
  return hasCopyright (<- Job.readText path).toList

def foldUnheaded {σ : Type} (visit : σ -> Path -> Job σ) (state : σ) (pattern : Path) : Job σ :=
  (Choice.path pattern).fold .here (fun state (file : Path) => do
    if <- hasHeader file then return state
    visit state file) state

def unheaded (patterns : List Path) : Job (List Path) := do
  let found <- patterns.foldlM (foldUnheaded fun found file => return file :: found) []
  return found.reverse

variable (root : Path)

def sourceFiles : Path :=
  root / "src/**/*.java"

def replaceUnheaded (before after : String) : Job Unit := do
  let substitution <- Job.ofExcept (Substitution.parse before after)
  foldUnheaded (fun _ file => do
    let _ <- (Selection.one (.path file)).fold .here (fun count (found : Path) => do
      if <- Job.isFile found then return count + (<- substitution.inFile found)
      return count) 0) () (sourceFiles root)

def resourceNames : Selection :=
  .ofPaths (["src/**/*Name.java", "src/**/*Names.java"].map fun (name : String) => root / name)

def fixMessageHeaders : Job Unit := do
  let good := licence (<- get).today.year
  replaceUnheaded root messageMark (good ++ messageMark)
  let _ <- Replacement.replaceIn (resourceNames root) brokenLicence good

def fixServiceHeaders : Job Unit := do
  let good := licence (<- get).today.year
  replaceUnheaded root "^package (.*);" (good ++ "package \\1;")

def fixAllHeaders : Job Unit := do
  let root <- Job.resolve .here
  (<- ShellGlob.paths "proto-google-*").forM fun path => fixMessageHeaders (root / path)
  (<- ShellGlob.paths "grpc-google-*").forM fun path => fixServiceHeaders (root / path)

end Refinery.Maven
