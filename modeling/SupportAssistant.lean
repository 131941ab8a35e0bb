import SupportAssistant.Api.Budget
import SupportAssistant.Api.Chronicle
import SupportAssistant.Api.Deployment
import SupportAssistant.Api.Isolation
import SupportAssistant.Api.Lifecycle
import SupportAssistant.Api.LogText
import SupportAssistant.Api.Process
import SupportAssistant.Api.Progress
import SupportAssistant.Api.Responses
import SupportAssistant.Api.Restarts
import SupportAssistant.Api.Routes
import SupportAssistant.Api.Schemas
import SupportAssistant.Api.Sendable
import SupportAssistant.Api.ServedViews
import SupportAssistant.Api.Visibility
import SupportAssistant.Clock
import SupportAssistant.Demo.App
import SupportAssistant.Demo.Attention
import SupportAssistant.Demo.Coherence
import SupportAssistant.Demo.Coverage
import SupportAssistant.Demo.Seed
import SupportAssistant.Demo.Seeding
import SupportAssistant.Domain
import SupportAssistant.Effects.Invariants
import SupportAssistant.Effects.LastWrite
import SupportAssistant.Effects.Locality
import SupportAssistant.Effects.Lockstep
import SupportAssistant.Effects.Mapping
import SupportAssistant.Effects.Outcomes
import SupportAssistant.Effects.Prolonging
import SupportAssistant.Effects.Runs
import SupportAssistant.Enums
import SupportAssistant.Guardrails.Amounts
import SupportAssistant.Guardrails.Extraction
import SupportAssistant.Guardrails.Facts
import SupportAssistant.Guardrails.Fragments
import SupportAssistant.Guardrails.Grounding
import SupportAssistant.Guardrails.Limits
import SupportAssistant.Guardrails.Literals
import SupportAssistant.Guardrails.Masking
import SupportAssistant.Guardrails.Rendered
import SupportAssistant.Guardrails.Repetition
import SupportAssistant.Llm.Answers
import SupportAssistant.Llm.Fake
import SupportAssistant.Llm.Filled
import SupportAssistant.Llm.Keywords
import SupportAssistant.Llm.Ollama
import SupportAssistant.Llm.Prompts
import SupportAssistant.Llm.Templates
import SupportAssistant.Numeric.DecimalFloat
import SupportAssistant.Numeric.DecimalText
import SupportAssistant.Observability.Exposition
import SupportAssistant.Observability.Histograms
import SupportAssistant.Observability.Keyed
import SupportAssistant.Observability.LogStream
import SupportAssistant.Observability.Logging
import SupportAssistant.Observability.Metrics
import SupportAssistant.Observability.Page
import SupportAssistant.Observability.Stored
import SupportAssistant.Observability.Tally
import SupportAssistant.Ordering.Buckets
import SupportAssistant.Ordering.Latest
import SupportAssistant.Pipeline.Accounts
import SupportAssistant.Pipeline.Agreement
import SupportAssistant.Pipeline.Caps
import SupportAssistant.Pipeline.Collaborators
import SupportAssistant.Pipeline.Conclusions
import SupportAssistant.Pipeline.Conversation
import SupportAssistant.Pipeline.CustomerWords
import SupportAssistant.Pipeline.DecisionTable
import SupportAssistant.Pipeline.DefaultWiring
import SupportAssistant.Pipeline.Determinism
import SupportAssistant.Pipeline.Disclosure
import SupportAssistant.Pipeline.Drift
import SupportAssistant.Pipeline.FakeRun
import SupportAssistant.Pipeline.Handover
import SupportAssistant.Pipeline.Orchestrator
import SupportAssistant.Pipeline.Prompted
import SupportAssistant.Pipeline.Reasons
import SupportAssistant.Pipeline.Replies
import SupportAssistant.Pipeline.RunSpec
import SupportAssistant.Pipeline.Scripted
import SupportAssistant.Pipeline.SingleWrite
import SupportAssistant.Pipeline.Ticks
import SupportAssistant.Pipeline.TraceGrammar
import SupportAssistant.Pipeline.Traceability
import SupportAssistant.Pipeline.Truth
import SupportAssistant.Pipeline.WritableRuns
import SupportAssistant.Runtime
import SupportAssistant.Runtime.Ascii
import SupportAssistant.Runtime.Dumps
import SupportAssistant.Runtime.Written
import SupportAssistant.Storage.Atomicity
import SupportAssistant.Storage.Codec
import SupportAssistant.Storage.Compact
import SupportAssistant.Storage.Filing
import SupportAssistant.Storage.Finality
import SupportAssistant.Storage.Interchange
import SupportAssistant.Storage.Locality
import SupportAssistant.Storage.Memory
import SupportAssistant.Storage.PayloadText
import SupportAssistant.Storage.Protocol
import SupportAssistant.Storage.ReadBack
import SupportAssistant.Storage.Sqlite
import SupportAssistant.Storage.SqliteSpec
import SupportAssistant.Text.Alternation
import SupportAssistant.Text.Assembly
import SupportAssistant.Text.Backtracking
import SupportAssistant.Text.Blanking
import SupportAssistant.Text.Exposition
import SupportAssistant.Text.JsonNumbers
import SupportAssistant.Text.JsonStrings
import SupportAssistant.Text.JsonText
import SupportAssistant.Text.Listings
import SupportAssistant.Text.MaximalWords
import SupportAssistant.Text.Numerals
import SupportAssistant.Text.Scan
import SupportAssistant.Text.Tokens
import SupportAssistant.Text.WholeWords
import SupportAssistant.Tools.Loaders
import SupportAssistant.Tools.Messages
import SupportAssistant.Tools.Ownership
import SupportAssistant.Tools.Registry
import SupportAssistant.Tools.Rows
import SupportAssistant.Tools.Specification
import SupportAssistant.Tracing.Models
import SupportAssistant.Tracing.Recorder
import SupportAssistant.Tracing.Summarise
