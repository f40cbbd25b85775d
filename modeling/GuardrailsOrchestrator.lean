import GuardrailsOrchestrator.BatchStream.Delivery
import GuardrailsOrchestrator.Batcher.Choices
import GuardrailsOrchestrator.Batcher.Chunkers
import GuardrailsOrchestrator.Batcher.Conservation
import GuardrailsOrchestrator.Chat.Coverage
import GuardrailsOrchestrator.Chat.FinishReason
import GuardrailsOrchestrator.Chat.Ordering
import GuardrailsOrchestrator.Chat.Screening
import GuardrailsOrchestrator.Chat.Termination
import GuardrailsOrchestrator.Chat.ToolCalls
import GuardrailsOrchestrator.Chat.Unary
import GuardrailsOrchestrator.Clients.Usable
import GuardrailsOrchestrator.Completions.EmptyOutput
import GuardrailsOrchestrator.Completions.Inputs
import GuardrailsOrchestrator.Completions.Screening
import GuardrailsOrchestrator.Completions.Termination
import GuardrailsOrchestrator.Completions.Unary
import GuardrailsOrchestrator.DetectionStreams.Coverage
import GuardrailsOrchestrator.DetectionStreams.Upstream
import GuardrailsOrchestrator.FinalMessage
import GuardrailsOrchestrator.Gateway.Forwarding
import GuardrailsOrchestrator.Gateway.Services
import GuardrailsOrchestrator.Gateway.Streaming
import GuardrailsOrchestrator.Generation.Client
import GuardrailsOrchestrator.Headers
import GuardrailsOrchestrator.InputChannels
import GuardrailsOrchestrator.Logprobs
import GuardrailsOrchestrator.Masks
import GuardrailsOrchestrator.OpenAiClient.Events
import GuardrailsOrchestrator.OpenAiClient.Router
import GuardrailsOrchestrator.Server.Masks
import GuardrailsOrchestrator.Server.Streaming
import GuardrailsOrchestrator.StreamContent.Agreement
import GuardrailsOrchestrator.TextContents.Results
import GuardrailsOrchestrator.UnaryOutput
import GuardrailsOrchestrator.Validation
