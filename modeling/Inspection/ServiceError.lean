import Inspection.Decoding
import Inspection.Filter.Shape

/-!
# Errors of the service

Why a request is refused, the code and the message that the client sees, and
the document that carries them.
-/

namespace Inspection

inductive ErrorCode where
  | invalidFilterKey
  | invalidFilterValue
  | noSuchEntity
  | invalidInput
  | unknownOperation
  | unrecognizedClient
  | serialization
deriving DecidableEq, Repr

inductive ServiceError where
  | incompleteTag
  | filterNotObject
  | foreignTargetFilter
  | malformedFilter (key : String) (shape : Shape)
  | noSuchTemplate (arn : String)
  | missingParameter (name : String)
  | notAnInteger (name : String)
  | malformedParameter (name : String) (fault : Fault)
  | durationOutOfRange
  | maxResultsNotPositive
  | malformedToken (token : String)
  | unknownOperation (name : String)
  | unservedRegion (region : String)
  | unreadableBody (reason : String)
  | bodyNotObject
deriving DecidableEq

/-- The shortest duration of a template, in seconds. -/
def shortestDuration : Nat := 180

/-- The longest duration of a template, in seconds. -/
def longestDuration : Nat := 86400

def targetNamePattern : String := "assessmentTargetNamePattern"

namespace ErrorCode

def text : ErrorCode → String
  | invalidFilterKey => "InvalidFilterKey"
  | invalidFilterValue => "InvalidFilterValue"
  | noSuchEntity => "NoSuchEntityException"
  | invalidInput => "InvalidInputException"
  | unknownOperation => "UnknownOperationException"
  | unrecognizedClient => "UnrecognizedClientException"
  | serialization => "SerializationException"

/-- The HTTP status of an error: all are the client's. -/
def status (_ : ErrorCode) : Nat := 400

end ErrorCode

namespace ServiceError

def code : ServiceError → ErrorCode
  | incompleteTag => .invalidFilterKey
  | filterNotObject => .invalidFilterValue
  | foreignTargetFilter => .invalidFilterValue
  | malformedFilter _ _ => .invalidFilterValue
  | noSuchTemplate _ => .noSuchEntity
  | missingParameter _ => .invalidInput
  | notAnInteger _ => .invalidInput
  | malformedParameter _ _ => .invalidInput
  | durationOutOfRange => .invalidInput
  | maxResultsNotPositive => .invalidInput
  | malformedToken _ => .invalidInput
  | unknownOperation _ => .unknownOperation
  | unservedRegion _ => .unrecognizedClient
  | unreadableBody _ => .serialization
  | bodyNotObject => .serialization

/-- The message about a filter parameter that is not what its key takes. -/
def filterMessage (key wanted : String) : String :=
  "Invalid value for filter " ++ key ++ ": expected " ++ wanted

def message : ServiceError → String
  | incompleteTag => "Key and Value required."
  | filterNotObject => "Filter must be an object."
  | foreignTargetFilter => "Only " ++ targetNamePattern ++ " allowed as filter."
  | malformedFilter key shape => filterMessage key shape.description
  | noSuchTemplate arn => "Assessment template " ++ arn ++ " does not exist"
  | missingParameter name => "Missing required parameter: " ++ name
  | notAnInteger name => "Parameter " ++ name ++ " must be an integer"
  | malformedParameter name fault =>
    "Invalid value for parameter " ++ name ++ ": " ++ fault.message
  | durationOutOfRange =>
    "durationInSeconds must be between " ++ Decimal.ofNat shortestDuration ++ " and "
      ++ Decimal.ofNat longestDuration
  | maxResultsNotPositive => "maxResults must be positive"
  | malformedToken token => "Invalid nextToken: " ++ token
  | unknownOperation name => "Operation " ++ name ++ " is not supported"
  | unservedRegion region => "Region " ++ region ++ " is not served by this endpoint"
  | unreadableBody reason => reason
  | bodyNotObject => "Request body must be a JSON object"

/-- The document that tells a client of an error. -/
def document (error : ServiceError) : Json :=
  .obj [("__type", .str error.code.text), ("message", .str error.message)]

end ServiceError

end Inspection
