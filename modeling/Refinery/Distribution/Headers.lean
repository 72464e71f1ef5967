import Refinery.Replacement

namespace Refinery.Distribution

/-!
# Licence headers of generated modules

The licence comes between two parts that have to follow each other, so it is added only once.
-/

def licence : String :=
  "\n# Copyright 2024 Google LLC\n" ++ "#\n" ++ "# Licensed under the Apache License, Version 2.0 (the \"License\");\n" ++
  "# you may not use this file except in compliance with the License.\n" ++
  "# You may obtain a copy of the License at\n" ++ "#\n" ++ "#     http://www.apache.org/licenses/LICENSE-2.0\n" ++
  "#\n" ++ "# Unless required by applicable law or agreed to in writing, software\n" ++
  "# distributed under the License is distributed on an \"AS IS\" BASIS,\n" ++
  "# WITHOUT WARRANTIES OR CONDITIONS OF ANY KIND, either express or implied.\n" ++
  "# See the License for the specific language governing permissions and\n" ++ "# limitations under the License."

def messageHeader : String :=
  "(\\# -\\*- coding: utf-8 -\\*-\\n)(\\# Generated by the protocol buffer compiler\\.  " ++
    "DO NOT EDIT!.*?# source: .*?\\.proto)"

def serviceHeader : String :=
  "(\\# Generated by the gRPC Python protocol compiler plugin. DO NOT EDIT!)\n(import grpc)"

def fixMessageHeaders (modules : Selection) : Job Unit := do
  let _ <- Replacement.replaceIn modules messageHeader
    ("\\g<1>" ++ licence ++ "\\n\\n\\g<2>") { dotAll := true, multiline := true }

def fixServiceHeaders (modules : Selection) : Job Unit := do
  let _ <- Replacement.replaceIn modules serviceHeader
    (licence ++ "\\n\\n\\g<1>\\n\\n\\g<2>")

end Refinery.Distribution
